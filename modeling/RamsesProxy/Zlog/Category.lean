import RamsesProxy.Zlog.Rule

set_option autoImplicit false

namespace Zlog

open CText

-- Whether the allocations of one call succeed: the array of the rules, and its growth,
-- by the size it has when it is full.
structure Memory where
  listAllocated : Bool
  arrayGrown : Nat → Bool

def Memory.Ample (memory : Memory) : Prop := memory.listAllocated = true ∧ ∀ size, memory.arrayGrown size = true

abbrev arrayListDefaultSize : Nat := 32

-- An array of rules that is NULL in the source is none.
structure Category (Action : Type) where
  name : Bytes
  levelBitmap : CharArray 32
  levelBitmapBackup : CharArray 32
  fitRules : Option (List (Rule Action))
  fitRulesBackup : Option (List (Rule Action))

namespace Category

variable {Action : Type}

structure Gathered (Action : Type) where
  fitRules : List (Rule Action)
  size : Nat
  levelBitmap : CharArray 32
  wastebinRule : Option (Rule Action)

def Gathered.create : Gathered Action := ⟨[], arrayListDefaultSize, CharArray.zeroed, none⟩

-- An array that cannot grow is freed in zc_arraylist_expand_inner and once more under err
-- in zlog_category_obtain_rules: nothing goes on after that.
def Gathered.add (memory : Memory) (rule : Rule Action) (gathered : Gathered Action) : Option (Gathered Action) :=
  let added := { gathered with
    fitRules := gathered.fitRules ++ [rule]
    levelBitmap := Bitmap.overlap gathered.levelBitmap rule.levelBitmap }
  if gathered.fitRules.length < gathered.size then some added
  else if memory.arrayGrown gathered.size = true then some { added with size := gathered.size * 2 }
  else none

def Gathered.note (rule : Rule Action) (gathered : Gathered Action) : Gathered Action :=
  if rule.isWastebin = true then { gathered with wastebinRule := some rule } else gathered

def gather (memory : Memory) (name : Bytes) : List (Rule Action) → Gathered Action → Option (Gathered Action)
  | [], gathered => some gathered
  | rule :: rest, gathered =>
      if rule.matchCategory name = true then
        (gathered.add memory rule).bind fun added => gather memory name rest (added.note rule)
      else gather memory name rest (gathered.note rule)

def settle (memory : Memory) (gathered : Gathered Action) : Option (Gathered Action) :=
  match gathered.fitRules, gathered.wastebinRule with
  | [], some rule => gathered.add memory rule
  | _, _ => some gathered

def obtainRules (memory : Memory) (rules : List (Rule Action)) (category : Category Action) : Option (Category Action × Bool) :=
  if memory.listAllocated = false then some ({ category with levelBitmap := CharArray.zeroed, fitRules := none }, false)
  else
    ((gather memory category.name rules .create).bind (settle memory)).map fun gathered =>
      ({ category with levelBitmap := gathered.levelBitmap, fitRules := some gathered.fitRules }, true)

def new (categoryAllocated : Bool) (memory : Memory) (rules : List (Rule Action)) (name : Bytes) :
    Option (Option (Category Action)) :=
  if 1024 < name.length ∨ categoryAllocated = false then some none
  else
    (obtainRules memory rules ⟨name, CharArray.zeroed, CharArray.zeroed, none, none⟩).map fun obtained =>
      if obtained.2 = true then some obtained.1 else none

def updateRules (memory : Memory) (rules : List (Rule Action)) (category : Category Action) : Option (Category Action × Bool) :=
  obtainRules memory rules
    { category with
      fitRulesBackup := category.fitRules
      fitRules := none
      levelBitmapBackup := category.levelBitmap }

def commitRules (category : Category Action) : Category Action :=
  match category.fitRulesBackup with
  | none => category
  | some _ => { category with fitRulesBackup := none, levelBitmapBackup := CharArray.zeroed }

def rollbackRules (category : Category Action) : Category Action :=
  match category.fitRulesBackup with
  | none => category
  | some backup =>
      { category with
        fitRules := some backup
        fitRulesBackup := none
        levelBitmap := category.levelBitmapBackup
        levelBitmapBackup := CharArray.zeroed }

def needlessLevel (category : Category Action) (level : Nat) : Bool := !Bitmap.test category.levelBitmap level

-- The actions in the order they are taken, and the result of the last rule. Without an
-- array of rules there is nothing to go through.
def output (outcome : Action → Int) (level : Nat) (category : Category Action) : Option (List Action × Int) :=
  category.fitRules.map fun fitRules =>
    fitRules.foldl
      (fun result rule => (result.1 ++ rule.output level, if rule.passes level = true then outcome rule.action else 0)) ([], 0)

def chosen (rules : List (Rule Action)) (name : Bytes) : List (Rule Action) :=
  match rules.filter fun rule => rule.matchCategory name with
  | [] => (rules.filter Rule.isWastebin).getLast?.toList
  | fitting => fitting

def overlapped (rules : List (Rule Action)) : CharArray 32 :=
  rules.foldl (fun bitmap rule => Bitmap.overlap bitmap rule.levelBitmap) CharArray.zeroed

-- The actions a configuration asks for, each rule asked in turn.
def asked (rules : List (Rule Action)) (name : Bytes) (level : Nat) : List Action :=
  (chosen rules name).flatMap fun rule => rule.output level

section Obtain

variable (memory : Memory) (name : Bytes) (rules : List (Rule Action))

theorem note_fit (rule : Rule Action) (gathered : Gathered Action) :
    (gathered.note rule).fitRules = gathered.fitRules ∧ (gathered.note rule).levelBitmap = gathered.levelBitmap := by
  unfold Gathered.note
  by_cases wastebin : rule.isWastebin = true
  · rw [if_pos wastebin]
    exact ⟨rfl, rfl⟩
  · rw [if_neg wastebin]
    exact ⟨rfl, rfl⟩

theorem note_wastebin (rule : Rule Action) (rest : List (Rule Action)) (gathered : Gathered Action) :
    (rest.filter Rule.isWastebin).getLast?.or (gathered.note rule).wastebinRule =
      ((rule :: rest).filter Rule.isWastebin).getLast?.or gathered.wastebinRule := by
  unfold Gathered.note
  by_cases wastebin : rule.isWastebin = true
  · rw [if_pos wastebin, List.filter_cons_of_pos wastebin, List.getLast?_cons]
    cases (rest.filter Rule.isWastebin).getLast? with
    | none => rfl
    | some last => rfl
  · rw [if_neg wastebin, List.filter_cons_of_neg wastebin]

structure Added (rule : Rule Action) (gathered after : Gathered Action) : Prop where
  fit : after.fitRules = gathered.fitRules ++ [rule]
  bitmap : after.levelBitmap = Bitmap.overlap gathered.levelBitmap rule.levelBitmap
  wastebin : after.wastebinRule = gathered.wastebinRule

theorem add_some (rule : Rule Action) (gathered after : Gathered Action) (added : gathered.add memory rule = some after) :
    Added rule gathered after := by
  unfold Gathered.add at added
  by_cases room : gathered.fitRules.length < gathered.size
  · rw [if_pos room] at added
    cases added
    exact ⟨rfl, rfl, rfl⟩
  · rw [if_neg room] at added
    by_cases grown : memory.arrayGrown gathered.size = true
    · rw [if_pos grown] at added
      cases added
      exact ⟨rfl, rfl, rfl⟩
    · rw [if_neg grown] at added
      cases added

theorem gather_some (gathered after : Gathered Action) (done : gather memory name rules gathered = some after) :
    after.fitRules = gathered.fitRules ++ rules.filter (fun rule => rule.matchCategory name) ∧
      after.levelBitmap = (rules.filter fun rule => rule.matchCategory name).foldl
        (fun bitmap rule => Bitmap.overlap bitmap rule.levelBitmap) gathered.levelBitmap ∧
      after.wastebinRule = (rules.filter Rule.isWastebin).getLast?.or gathered.wastebinRule := by
  induction rules generalizing gathered with
  | nil =>
      cases done
      simp
  | cons rule rest ih =>
      by_cases fits : rule.matchCategory name = true
      · rw [gather, if_pos fits] at done
        obtain ⟨middle, added, continued⟩ := Option.bind_eq_some_iff.mp done
        obtain ⟨fit, bitmap⟩ := note_fit rule middle
        obtain ⟨addedFit, addedBitmap, addedWastebin⟩ := add_some memory rule gathered middle added
        have kept : (rule :: rest).filter (fun rule => rule.matchCategory name) =
            rule :: rest.filter (fun rule => rule.matchCategory name) := List.filter_cons_of_pos fits
        obtain ⟨restFit, restBitmap, restWastebin⟩ := ih (middle.note rule) continued
        rw [restFit, restBitmap, restWastebin, fit, bitmap, note_wastebin, kept, addedFit, addedBitmap, addedWastebin]
        simp
      · rw [gather, if_neg fits] at done
        obtain ⟨fit, bitmap⟩ := note_fit rule gathered
        have kept : (rule :: rest).filter (fun rule => rule.matchCategory name) =
            rest.filter (fun rule => rule.matchCategory name) := List.filter_cons_of_neg fits
        obtain ⟨restFit, restBitmap, restWastebin⟩ := ih (gathered.note rule) done
        rw [restFit, restBitmap, restWastebin, fit, bitmap, note_wastebin, kept]
        exact ⟨rfl, rfl, rfl⟩

theorem settle_some (gathered after : Gathered Action) (fit : gathered.fitRules = rules.filter fun rule => rule.matchCategory name)
    (bitmap : gathered.levelBitmap = overlapped gathered.fitRules)
    (wastebin : gathered.wastebinRule = (rules.filter Rule.isWastebin).getLast?) (done : settle memory gathered = some after) :
    after.fitRules = chosen rules name ∧ after.levelBitmap = overlapped (chosen rules name) := by
  unfold settle at done
  unfold chosen
  rw [← fit, ← wastebin]
  cases fitting : gathered.fitRules with
  | cons rule rest =>
      simp only [fitting] at done
      cases done
      exact ⟨fitting, by rw [bitmap, fitting]⟩
  | nil =>
      cases last : gathered.wastebinRule with
      | none =>
          simp only [fitting, last] at done
          cases done
          exact ⟨fitting, by rw [bitmap, fitting]; rfl⟩
      | some rule =>
          simp only [fitting, last] at done
          obtain ⟨addedFit, addedBitmap, _⟩ := add_some memory rule gathered after done
          rw [addedFit, addedBitmap, bitmap, fitting]
          exact ⟨rfl, rfl⟩

variable (category : Category Action)

theorem obtain_cases (after : Category Action) (done : Bool) (obtained : obtainRules memory rules category = some (after, done)) :
    (done = true ∧ after =
      { category with
        levelBitmap := overlapped (chosen rules category.name)
        fitRules := some (chosen rules category.name) }) ∨
    (done = false ∧ memory.listAllocated = false ∧
      after = { category with levelBitmap := CharArray.zeroed, fitRules := none }) := by
  unfold obtainRules at obtained
  by_cases list : memory.listAllocated = false
  · rw [if_pos list] at obtained
    cases obtained
    exact .inr ⟨rfl, list, rfl⟩
  · rw [if_neg list] at obtained
    obtain ⟨gathered, looped, same⟩ := Option.map_eq_some_iff.mp obtained
    cases same
    obtain ⟨middle, ended, settled⟩ := Option.bind_eq_some_iff.mp looped
    obtain ⟨fit, bitmap, wastebin⟩ := gather_some memory category.name rules .create middle ended
    have first : middle.fitRules = rules.filter fun rule => rule.matchCategory category.name := fit
    have bits : middle.levelBitmap = overlapped middle.fitRules := by rw [bitmap, first, overlapped]; rfl
    have last : middle.wastebinRule = (rules.filter Rule.isWastebin).getLast? := wastebin.trans (Option.or_none ..)
    obtain ⟨rulesChosen, bitsChosen⟩ := settle_some memory category.name rules middle gathered first bits last settled
    left
    rw [rulesChosen, bitsChosen]
    exact ⟨rfl, rfl⟩

theorem obtain_kept (after : Category Action) (done : Bool) (obtained : obtainRules memory rules category = some (after, done)) :
    after.name = category.name ∧ after.fitRulesBackup = category.fitRulesBackup ∧
      after.levelBitmapBackup = category.levelBitmapBackup := by
  cases obtain_cases memory rules category after done obtained with
  | inl obtainedAll =>
      rw [obtainedAll.2]
      exact ⟨rfl, rfl, rfl⟩
  | inr failed =>
      rw [failed.2.2]
      exact ⟨rfl, rfl, rfl⟩

end Obtain

structure Follows (rules : List (Rule Action)) (category : Category Action) : Prop where
  fit : category.fitRules = some (chosen rules category.name)
  bitmap : category.levelBitmap = overlapped (chosen rules category.name)
  backup : category.fitRulesBackup = none
  bitmapBackup : category.levelBitmapBackup = CharArray.zeroed

section Follows

variable (rules : List (Rule Action)) (category : Category Action)

theorem follows_new (categoryAllocated : Bool) (memory : Memory) (name : Bytes)
    (made : new categoryAllocated memory rules name = some (some category)) : category.name = name ∧ Follows rules category := by
  unfold new at made
  by_cases refused : 1024 < name.length ∨ categoryAllocated = false
  · rw [if_pos refused] at made
    cases made
  · rw [if_neg refused] at made
    obtain ⟨⟨after, done⟩, obtained, same⟩ := Option.map_eq_some_iff.mp made
    cases obtain_cases memory rules _ after done obtained with
    | inl obtainedAll =>
        obtain ⟨rfl, rfl⟩ := obtainedAll
        cases same
        exact ⟨rfl, rfl, rfl, rfl, rfl⟩
    | inr failed =>
        obtain ⟨rfl, _⟩ := failed
        cases same

variable (memory : Memory) (old : List (Rule Action)) (after : Category Action) (done : Bool)
  (updated : updateRules memory rules category = some (after, done))
include updated

theorem follows_commit (follows : Follows old category) (succeeded : done = true) : Follows rules after.commitRules := by
  subst succeeded
  cases obtain_cases memory rules _ after true updated with
  | inl obtained =>
      rw [obtained.2]
      simp only [commitRules, follows.fit]
      exact ⟨rfl, rfl, rfl, rfl⟩
  | inr failed => cases failed.1

theorem commit_update_name : after.commitRules.name = category.name := by
  have kept := (obtain_kept memory rules _ after done updated).1
  unfold commitRules
  cases after.fitRulesBackup with
  | none => exact kept
  | some backup => exact kept

theorem rollback_update (follows : Follows old category) : after.rollbackRules = category := by
  obtain ⟨name, backup, bitmapBackup⟩ := obtain_kept memory rules _ after done updated
  have held : after.fitRulesBackup = category.fitRules := backup
  have kept : after.levelBitmapBackup = category.levelBitmap := bitmapBackup
  have named : after.name = category.name := name
  rw [rollbackRules, held, follows.fit]
  dsimp only
  rw [named, kept, ← follows.fit, ← follows.backup, ← follows.bitmapBackup]

omit updated

theorem rollback_follows (follows : Follows rules category) : category.rollbackRules = category := by
  rw [rollbackRules, follows.backup]

theorem overlapped_test (fit : List (Rule Action)) (level : Nat) (small : level < 256) :
    Bitmap.test (overlapped fit) level = fit.any fun rule => rule.passes level := by
  have folded (bitmap : CharArray 32) :
      Bitmap.test (fit.foldl (fun bitmap rule => Bitmap.overlap bitmap rule.levelBitmap) bitmap) level =
        (Bitmap.test bitmap level || fit.any fun rule => rule.passes level) := by
    induction fit generalizing bitmap with
    | nil => simp
    | cons rule rest ih =>
        rw [List.foldl_cons, ih, Bitmap.test_overlap, Rule.bitmap_passes rule level small, List.any_cons, Bool.or_assoc]
  rw [overlapped, folded, Bitmap.test_zeroed, Bool.false_or]

theorem needless_asked (follows : Follows rules category) (level : Nat) (small : level < 256) :
    category.needlessLevel level = true ↔ asked rules category.name level = [] := by
  rw [needlessLevel, follows.bitmap, overlapped_test _ level small, Bool.not_eq_true', List.any_eq_false, asked,
    List.flatMap_eq_nil_iff]
  constructor
  · intro silent rule member
    rw [Rule.output, if_neg (silent rule member)]
  · intro silent rule member passing
    have none := silent rule member
    rw [Rule.output, if_pos passing] at none
    cases none

theorem output_asked (follows : Follows rules category) (outcome : Action → Int) (level : Nat) :
    ∃ result, category.output outcome level = some (asked rules category.name level, result) := by
  have folded (fit : List (Rule Action)) (taken : List Action) (result : Int) :
      (fit.foldl (fun result rule => (result.1 ++ rule.output level,
        if rule.passes level = true then outcome rule.action else 0)) (taken, result)).1 =
          taken ++ fit.flatMap fun rule => rule.output level := by
    induction fit generalizing taken result with
    | nil => simp
    | cons rule rest ih => rw [List.foldl_cons, ih, List.flatMap_cons, List.append_assoc]
  rw [output, follows.fit, Option.map_some]
  exact ⟨_, congrArg some (Prod.ext (folded _ [] 0) rfl)⟩

end Follows

end Category

end Zlog
