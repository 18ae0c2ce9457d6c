import RamsesProxy.Zlog.Rotation

set_option autoImplicit false

namespace Zlog

open CText

namespace Rotater

def Stores (rotater : Rotater) (holds : Nat → Bytes → Prop) (files : Files) : Prop :=
  ∀ (number : Nat) path, rotater.archivePathOf number = some path → ∀ bytes, files path = some bytes ↔ holds number bytes

section Places

variable (count : Nat) (entries : List (Nat × Bytes))

-- A roll that has put an archive on the number of one still to come moves it once more,
-- in the place of the other. This is the archive that a place sends on in the end.
def source (place : Nat) : Nat :=
  match entries[place]? with
  | none => place
  | some entry => if place + 1 < entry.1 ∧ entry.1 ≤ count then source (entry.1 - 1) else place
termination_by count - place

def carried (place : Nat) : Option Bytes := entries[source count entries place]?.map Prod.snd

def Overwritten (place : Nat) : Prop := ∃ entry, entries[place]? = some entry ∧ place + 1 < entry.1 ∧ entry.1 ≤ count

def Settled (position place : Nat) : Prop :=
  ∀ between entry, position ≤ between → between < place → entries[between]? = some entry → entry.1 ≠ place + 1

-- The archives when the loop has still to go through the places before position: those
-- it has moved, and those that wait and have not been written over.
def Landed (position number place : Nat) : Prop :=
  position ≤ place ∧ place < count ∧ number = place + 1 ∧ Settled entries position place

def Standing (position number : Nat) (bytes : Bytes) : Prop :=
  (∃ place, Landed count entries position number place ∧ carried count entries place = some bytes) ∨
    (∀ place, ¬ Landed count entries position number place) ∧ ∃ earlier, earlier < position ∧ entries[earlier]? = some (number, bytes)

theorem source_moved (place : Nat) (entry : Nat × Bytes) (found : entries[place]? = some entry)
    (gap : place + 1 < entry.1 ∧ entry.1 ≤ count) : source count entries place = source count entries (entry.1 - 1) := by
  rw [source, found]
  exact if_pos gap

theorem source_kept (place : Nat) (safe : ¬ Overwritten count entries place) : source count entries place = place := by
  rw [source]
  cases found : entries[place]? with
  | none => rfl
  | some entry =>
      have close : ¬ (place + 1 < entry.1 ∧ entry.1 ≤ count) := fun gap => safe ⟨entry, found, gap⟩
      simp only [if_neg close]

theorem source_safe (place : Nat) : ¬ Overwritten count entries (source count entries place) := by
  by_cases later : Overwritten count entries place
  · obtain ⟨entry, found, gap⟩ := later
    rw [source_moved count entries place entry found gap]
    exact source_safe (entry.1 - 1)
  · rw [source_kept count entries place later]
    exact later
termination_by count - place

theorem source_inside (place : Nat) (inside : place < count) : source count entries place < count := by
  by_cases later : Overwritten count entries place
  · obtain ⟨entry, found, gap⟩ := later
    rw [source_moved count entries place entry found gap]
    exact source_inside (entry.1 - 1) (by omega)
  · rw [source_kept count entries place later]
    exact inside
termination_by count - place

theorem source_settled (place : Nat) (inside : place < count) :
    ∃ last, last < count ∧ Settled entries 0 last ∧ source count entries last = source count entries place := by
  induction place using Nat.strong_induction_on with
  | _ place ih =>
      by_cases settled : Settled entries 0 place
      · exact ⟨place, inside, settled, rfl⟩
      · simp only [Settled, not_forall, not_not] at settled
        obtain ⟨earlier, entry, _, before, found, same⟩ := settled
        obtain ⟨last, lastInside, lastSettled, there⟩ := ih earlier before (Nat.lt_trans before inside)
        refine ⟨last, lastInside, lastSettled, there.trans ?_⟩
        rw [source_moved count entries earlier entry found ⟨by omega, by omega⟩, same, Nat.add_sub_cancel]

theorem kept_iff (place : Nat) (inside : place < count) :
    (∃ last, last < count ∧ Settled entries 0 last ∧ source count entries last = place) ↔ ¬ Overwritten count entries place := by
  constructor
  · intro sent
    obtain ⟨last, _, _, rfl⟩ := sent
    exact source_safe count entries last
  · intro safe
    obtain ⟨last, lastInside, settled, same⟩ := source_settled count entries place inside
    exact ⟨last, lastInside, settled, same.trans (source_kept count entries place safe)⟩

theorem standing_end (short : count ≤ entries.length) (number : Nat) (bytes : Bytes) :
    Standing count entries entries.length number bytes ↔ (number, bytes) ∈ entries := by
  have empty : ∀ place, ¬ Landed count entries entries.length number place := by
    intro place landed
    have low := landed.1
    have high := landed.2.1
    omega
  constructor
  · intro standing
    cases standing with
    | inl moved =>
        obtain ⟨place, landed, _⟩ := moved
        exact absurd landed (empty place)
    | inr waiting =>
        obtain ⟨earlier, _, found⟩ := waiting.2
        exact List.mem_of_getElem? found
  · intro member
    obtain ⟨earlier, found⟩ := List.mem_iff_getElem?.mp member
    exact .inr ⟨empty, earlier, (List.getElem?_eq_some_iff.mp found).1, found⟩

theorem standing_start (number : Nat) (bytes : Bytes) :
    Standing count entries 0 number bytes ↔
      ∃ place, place < count ∧ number = place + 1 ∧ Settled entries 0 place ∧ carried count entries place = some bytes := by
  constructor
  · intro standing
    cases standing with
    | inl moved =>
        obtain ⟨place, ⟨_, inside, same, settled⟩, held⟩ := moved
        exact ⟨place, inside, same, settled, held⟩
    | inr waiting =>
        obtain ⟨earlier, before, _⟩ := waiting.2
        omega
  · intro sent
    obtain ⟨place, inside, same, settled, held⟩ := sent
    exact .inl ⟨place, ⟨Nat.zero_le _, inside, same, settled⟩, held⟩

variable (sorted : entries.Pairwise fun left right => left.1 < right.1)
include sorted

theorem numbers_apart (left right : Nat) (leftEntry rightEntry : Nat × Bytes) (leftFound : entries[left]? = some leftEntry)
    (rightFound : entries[right]? = some rightEntry) (same : leftEntry.1 = rightEntry.1) : left = right := by
  have numbers : (entries.map Prod.fst).Nodup := List.pairwise_map.mpr (sorted.imp Nat.ne_of_lt)
  have leftNumber : (entries.map Prod.fst)[left]? = some leftEntry.1 := by rw [List.getElem?_map, leftFound, Option.map_some]
  have rightNumber : (entries.map Prod.fst)[right]? = some leftEntry.1 := by
    rw [List.getElem?_map, rightFound, Option.map_some, same]
  obtain ⟨bound, _⟩ := List.getElem?_eq_some_iff.mp leftNumber
  exact (List.getElem?_inj bound numbers).mp (leftNumber.trans rightNumber.symm)

variable (position : Nat) (entry : Nat × Bytes) (found : entries[position]? = some entry)
include found

theorem waiting_apart (number : Nat) (bytes : Bytes) :
    (∃ earlier, earlier < position ∧ entries[earlier]? = some (number, bytes)) ↔
      number ≠ entry.1 ∧ ∃ earlier, earlier < position + 1 ∧ entries[earlier]? = some (number, bytes) := by
  constructor
  · intro waiting
    obtain ⟨earlier, before, there⟩ := waiting
    refine ⟨fun here => ?_, earlier, by omega, there⟩
    have place := numbers_apart entries sorted earlier position _ entry there found here
    omega
  · intro waiting
    obtain ⟨different, earlier, before, there⟩ := waiting
    refine ⟨earlier, ?_, there⟩
    by_contra late
    have place : earlier = position := by omega
    subst place
    cases there.symm.trans found
    exact different rfl

theorem standing_removed (short : count ≤ position) (number : Nat) (bytes : Bytes) :
    Standing count entries position number bytes ↔ number ≠ entry.1 ∧ Standing count entries (position + 1) number bytes := by
  have empty (start : Nat) (low : position ≤ start) (place : Nat) : ¬ Landed count entries start number place := by
    intro landed
    have above := landed.1
    have below := landed.2.1
    omega
  have apart := waiting_apart entries sorted position entry found number bytes
  constructor
  · intro standing
    cases standing with
    | inl moved =>
        obtain ⟨place, landed, _⟩ := moved
        exact absurd landed (empty position (Nat.le_refl _) place)
    | inr waiting =>
        obtain ⟨different, there⟩ := apart.mp waiting.2
        exact ⟨different, .inr ⟨empty (position + 1) (Nat.le_succ _), there⟩⟩
  · intro standing
    cases standing.2 with
    | inl moved =>
        obtain ⟨place, landed, _⟩ := moved
        exact absurd landed (empty (position + 1) (Nat.le_succ _) place)
    | inr waiting => exact .inr ⟨empty position (Nat.le_refl _), apart.mpr ⟨standing.1, waiting.2⟩⟩

theorem standing_here (inside : position < count) (bytes : Bytes) :
    Standing count entries (position + 1) entry.1 bytes ↔ carried count entries position = some bytes := by
  by_cases gap : position + 1 < entry.1 ∧ entry.1 ≤ count
  · have landed : Landed count entries (position + 1) entry.1 (entry.1 - 1) := by
      refine ⟨by omega, by omega, by omega, fun between other low _ there same => ?_⟩
      have place := numbers_apart entries sorted between position other entry there found (by omega)
      omega
    rw [carried, source_moved count entries position entry found gap]
    constructor
    · intro standing
      cases standing with
      | inl moved =>
          obtain ⟨place, ⟨_, _, same, _⟩, held⟩ := moved
          have here : place = entry.1 - 1 := by omega
          rw [here] at held
          exact held
      | inr waiting => exact absurd landed (waiting.1 _)
    · intro held
      exact .inl ⟨_, landed, held⟩
  · have empty : ∀ place, ¬ Landed count entries (position + 1) entry.1 place := by
      intro place landed
      obtain ⟨low, high, same, _⟩ := landed
      exact gap ⟨by omega, by omega⟩
    have safe : ¬ Overwritten count entries position := by
      intro later
      obtain ⟨other, otherFound, otherGap⟩ := later
      cases found.symm.trans otherFound
      exact gap otherGap
    rw [carried, source_kept count entries position safe, found, Option.map_some]
    constructor
    · intro standing
      cases standing with
      | inl moved =>
          obtain ⟨place, landed, _⟩ := moved
          exact absurd landed (empty place)
      | inr waiting =>
          obtain ⟨earlier, _, there⟩ := waiting.2
          have place := numbers_apart entries sorted earlier position _ entry there found rfl
          subst place
          have same := Option.some.inj (there.symm.trans found)
          exact congrArg (fun stored => some stored.2) same.symm
    · intro same
      cases same
      exact .inr ⟨empty, position, Nat.lt_succ_self _, found⟩

theorem standing_moved (inside : position < count) (number : Nat) (bytes : Bytes) :
    Standing count entries position number bytes ↔
      if number = position + 1 then Standing count entries (position + 1) entry.1 bytes
      else number ≠ entry.1 ∧ Standing count entries (position + 1) number bytes := by
  by_cases target : number = position + 1
  · rw [if_pos target, standing_here count entries sorted position entry found inside]
    have landed : Landed count entries position number position :=
      ⟨Nat.le_refl _, inside, target, fun between _ low high => absurd high (by omega)⟩
    constructor
    · intro standing
      cases standing with
      | inl moved =>
          obtain ⟨place, ⟨_, _, same, _⟩, held⟩ := moved
          have here : place = position := by omega
          rw [here] at held
          exact held
      | inr waiting => exact absurd landed (waiting.1 position)
    · intro held
      exact .inl ⟨position, landed, held⟩
  · rw [if_neg target]
    have apart := waiting_apart entries sorted position entry found number bytes
    have landed (place : Nat) : Landed count entries position number place ↔
        number ≠ entry.1 ∧ Landed count entries (position + 1) number place := by
      constructor
      · intro here
        obtain ⟨low, high, same, settled⟩ := here
        have before : position < place := by omega
        refine ⟨fun equal => settled position entry (Nat.le_refl _) before found (by omega), before, high, same, ?_⟩
        exact fun between other above below there => settled between other (by omega) below there
      · intro later
        obtain ⟨different, low, high, same, settled⟩ := later
        refine ⟨by omega, high, same, fun between other above below there equal => ?_⟩
        by_cases here : between = position
        · subst here
          cases there.symm.trans found
          omega
        · exact settled between other (by omega) below there equal
    constructor
    · intro standing
      cases standing with
      | inl moved =>
          obtain ⟨place, there, held⟩ := moved
          exact ⟨((landed place).mp there).1, .inl ⟨place, ((landed place).mp there).2, held⟩⟩
      | inr waiting =>
          obtain ⟨different, there⟩ := apart.mp waiting.2
          exact ⟨different, .inr ⟨fun place here => waiting.1 place ((landed place).mpr ⟨different, here⟩), there⟩⟩
    · intro standing
      cases standing.2 with
      | inl moved =>
          obtain ⟨place, there, held⟩ := moved
          exact .inl ⟨place, (landed place).mpr ⟨standing.1, there⟩, held⟩
      | inr waiting =>
          exact .inr ⟨fun place here => waiting.1 place ((landed place).mp here).2, apart.mpr ⟨standing.1, waiting.2⟩⟩

end Places

section Roll

variable (rotater : Rotater) (basePath : Bytes) (regular : Regular rotater basePath)

include regular in
theorem same_name (number other : Nat) (path name : Bytes) (placed : rotater.archivePathOf number = some path)
    (named : rotater.archivePathOf other = some name) : path = name ↔ number = other := by
  constructor
  · intro equal
    subst equal
    exact archive_path_injective rotater basePath regular number other path placed named
  · intro equal
    subst equal
    exact Option.some.inj (placed.symm.trans named)

include regular in
theorem stores_unlinked (holds : Nat → Bytes → Prop) (files after : Files) (number : Nat) (path : Bytes)
    (numbered : rotater.archivePathOf number = some path) (done : files.unlink path = some after)
    (stores : Stores rotater holds files) : Stores rotater (fun other bytes => other ≠ number ∧ holds other bytes) after := by
  intro other place placed bytes
  have same := same_name rotater basePath regular other number place path placed numbered
  rw [Files.unlinked files after path done]
  by_cases here : place = path
  · rw [if_pos here]
    simp [same.mp here]
  · rw [if_neg here, stores other place placed bytes]
    simp [same.not.mp here]

include regular in
theorem stores_renamed (holds : Nat → Bytes → Prop) (files after : Files) (number new : Nat) (path target : Bytes)
    (numbered : rotater.archivePathOf number = some path) (targeted : rotater.archivePathOf new = some target)
    (done : files.rename path target = some after) (stores : Stores rotater holds files) :
    Stores rotater (fun other bytes => if other = new then holds number bytes else other ≠ number ∧ holds other bytes) after := by
  intro other place placed bytes
  have sameTarget := same_name rotater basePath regular other new place target placed targeted
  have sameSource := same_name rotater basePath regular other number place path placed numbered
  rw [Files.renamed files after path target done]
  dsimp only
  by_cases isTarget : place = target
  · rw [if_pos isTarget, if_pos (sameTarget.mp isTarget)]
    exact stores number path numbered bytes
  · rw [if_neg isTarget, if_neg (sameTarget.not.mp isTarget)]
    by_cases isSource : place = path
    · rw [if_pos isSource]
      simp [sameSource.mp isSource]
    · rw [if_neg isSource, stores other place placed bytes]
      simp [sameSource.not.mp isSource]

variable (maxCount : Int) (entries : List (Nat × Bytes)) (sorted : entries.Pairwise fun left right => left.1 < right.1)
  (named : ∀ entry ∈ entries, ∃ path, rotater.archivePathOf entry.1 = some path)
  (fits : ∀ number : Nat, number ≤ entries.length → ∃ path, rotater.archivePathOf number = some path)

include sorted in
theorem standing_present (count position : Nat) (entry : Nat × Bytes) (found : entries[position]? = some entry)
    (short : count ≤ entries.length) : ∃ bytes, Standing count entries (position + 1) entry.1 bytes := by
  by_cases inside : position < count
  · have bound : source count entries position < entries.length :=
      Nat.lt_of_lt_of_le (source_inside count entries position inside) short
    obtain ⟨held, there⟩ : ∃ held, entries[source count entries position]? = some held := ⟨_, List.getElem?_eq_getElem bound⟩
    refine ⟨held.2, ?_⟩
    rw [standing_here count entries sorted position entry found inside, carried, there, Option.map_some]
  · refine ⟨entry.2, .inr ⟨fun place landed => ?_, position, Nat.lt_succ_self _, found⟩⟩
    have low := landed.1
    have high := landed.2.1
    omega

include regular sorted named fits

theorem roll_from_standing (position : Nat) (files : Files) (inside : position ≤ entries.length)
    (stores : Stores rotater (Standing (kept maxCount entries).length entries position) files) :
    ∃ after, rotater.rollFrom maxCount (fun _ => true) (entries.map (fileOf rotater)) position files = (after, true) ∧
      Stores rotater (Standing (kept maxCount entries).length entries 0) after ∧ after basePath = files basePath := by
  induction position generalizing files with
  | zero => exact ⟨files, rfl, stores, rfl⟩
  | succ position ih =>
      obtain ⟨entry, found⟩ : ∃ entry, entries[position]? = some entry := ⟨_, List.getElem?_eq_getElem inside⟩
      obtain ⟨path, numbered⟩ := named entry (List.mem_of_getElem? found)
      have listed : (entries.map (fileOf rotater))[position]? = some ⟨entry.1, path⟩ := by
        rw [List.getElem?_map, found, Option.map_some, file_of_eq rotater entry path numbered]
      obtain ⟨bytes, standing⟩ :=
        standing_present entries sorted (kept maxCount entries).length position entry found (kept_length_le maxCount entries)
      have stored := (stores entry.1 path numbered bytes).mpr standing
      rw [rollFrom, listed]
      dsimp only
      rw [if_neg (by simp)]
      by_cases removed : 0 < maxCount ∧ maxCount - 1 ≤ position
      · rw [if_pos removed]
        have short := (removed_iff maxCount entries position inside).mp removed
        obtain ⟨middle, done⟩ := Files.unlink_ok files path bytes stored
        obtain ⟨base, _⟩ := unlink_untouched rotater basePath regular files middle entry.1 path numbered done
        have now := stores_unlinked rotater basePath regular _ files middle entry.1 path numbered done stores
        have next : Stores rotater (Standing (kept maxCount entries).length entries position) middle := by
          intro number place placed content
          rw [now number place placed content,
            standing_removed (kept maxCount entries).length entries sorted position entry found short]
        obtain ⟨after, rolled, final, sameBase⟩ := ih middle (by omega) next
        rw [done]
        exact ⟨after, rolled, final, sameBase.trans base⟩
      · rw [if_neg removed]
        have long := (removed_iff maxCount entries position inside).not.mp removed
        obtain ⟨target, targeted⟩ := fits (position + 1) inside
        obtain ⟨middle, done⟩ := Files.rename_ok files path target bytes stored
        obtain ⟨base, _⟩ := rename_untouched rotater basePath regular files middle entry.1 (position + 1) path target numbered targeted done
        have now := stores_renamed rotater basePath regular _ files middle entry.1 (position + 1) path target numbered targeted done stores
        have next : Stores rotater (Standing (kept maxCount entries).length entries position) middle := by
          intro number place placed content
          rw [now number place placed content,
            standing_moved (kept maxCount entries).length entries sorted position entry found (by omega)]
        obtain ⟨after, rolled, final, sameBase⟩ := ih middle (by omega) next
        rw [targeted]
        dsimp only
        rw [done]
        exact ⟨after, rolled, final, sameBase.trans base⟩

end Roll

-- What a roll in which every call succeeds leaves: the log file as number 0, and one above
-- each place that is not emptied again the archive the place has sent on. Of the archives
-- below the limit those are gone that were written over: the number is more than one above
-- the place, and so many archives stay that a later one is given that number first.
theorem rolled_archives (rotater : Rotater) (basePath : Bytes) (regular : Regular rotater basePath) (maxCount : Int)
    (entries : List (Nat × Bytes)) (files : Files) (content : Bytes) (listed : List Bytes)
    (held : Held rotater basePath entries files) (small : ∀ entry ∈ entries, entry.1 < 2 ^ 31)
    (listing : Listing rotater files listed) (stored : files basePath = some content)
    (fits : ∀ number : Nat, number ≤ entries.length → ∃ path, rotater.archivePathOf number = some path) :
    ∃ after, rotater.rollFiles basePath maxCount (fun _ => true) (rotater.addArchiveFiles basePath listed) files = (after, true) ∧
      after basePath = none ∧
      Stores rotater (fun number bytes => number = 0 ∧ bytes = content ∨ ∃ place, place < (kept maxCount entries).length ∧
        number = place + 1 ∧ Settled entries 0 place ∧ carried (kept maxCount entries).length entries place = some bytes) after ∧
      ∀ place, place < (kept maxCount entries).length →
        ((∃ last, last < (kept maxCount entries).length ∧ Settled entries 0 last ∧
            source (kept maxCount entries).length entries last = place) ↔
          ¬ Overwritten (kept maxCount entries).length entries place) := by
  have short := kept_length_le maxCount entries
  have named : ∀ entry ∈ entries, ∃ path, rotater.archivePathOf entry.1 = some path := by
    intro entry member
    obtain ⟨path, numbered, _⟩ := held.named entry member
    exact ⟨path, numbered⟩
  have start : Stores rotater (Standing (kept maxCount entries).length entries entries.length) files := by
    intro number path numbered bytes
    rw [standing_end (kept maxCount entries).length entries short]
    constructor
    · intro present
      have notBase : path ≠ basePath := fun same => regular.apart number (same ▸ numbered)
      obtain ⟨entry, member, entryNumbered⟩ :=
        held.only path (archive_path_matches rotater number path numbered) notBase (by simp [present])
      obtain ⟨place, placed, there⟩ := held.named entry member
      cases placed.symm.trans entryNumbered
      cases archive_path_injective rotater basePath regular entry.1 number path entryNumbered numbered
      cases there.symm.trans present
      exact member
    · intro member
      obtain ⟨place, placed, present⟩ := held.named _ member
      cases numbered.symm.trans placed
      exact present
  obtain ⟨middle, rolled, stores, base⟩ :=
    roll_from_standing rotater basePath regular maxCount entries held.sorted named fits entries.length files (Nat.le_refl _) start
  obtain ⟨target, targeted⟩ := fits 0 (Nat.zero_le _)
  obtain ⟨after, done⟩ := Files.rename_ok middle basePath target content (base.trans stored)
  have notBase (number : Nat) (path : Bytes) (numbered : rotater.archivePathOf number = some path) : path ≠ basePath :=
    fun same => regular.apart number (same ▸ numbered)
  refine ⟨after, ?_, ?_, ?_, fun place inside => kept_iff (kept maxCount entries).length entries place inside⟩
  · rw [archives_added rotater basePath regular entries files listed held small listing, rollFiles, List.length_map, rolled]
    have first : rotater.archivePathOf 0 = some target := targeted
    simp [moveBase, first, done]
  · rw [Files.renamed middle after basePath target done, if_neg (notBase 0 target targeted).symm, if_pos rfl]
  · intro number path numbered bytes
    rw [Files.renamed middle after basePath target done, base, stored]
    by_cases zero : number = 0
    · subst zero
      cases numbered.symm.trans targeted
      rw [if_pos rfl]
      simp [eq_comm]
    · have notTarget : path ≠ target :=
        fun same => zero ((same_name rotater basePath regular number 0 path target numbered targeted).mp same)
      rw [if_neg notTarget, if_neg (notBase number path numbered), stores number path numbered bytes, standing_start]
      simp [zero]

def gapFiles : Files := fun path =>
  if path = ascii "a" then some (ascii "new")
  else if path = ascii "a.2" then some (ascii "old") else if path = ascii "a.5" then some (ascii "older") else none

def gapRotater : Rotater := ⟨ascii "a.", [], 0, .rolling⟩

theorem gap_regular : Regular gapRotater (ascii "a") where
  plain := by decide +kernel
  ends := by simp [gapRotater]
  file := by simp [gapRotater]
  apart := by
    intro index same
    have length := congrArg List.length (archive_path_eq gapRotater index _ same).1
    simp [gapRotater, ascii] at length

theorem gap_present (path : Bytes) (present : gapFiles path ≠ none) (notBase : path ≠ ascii "a") :
    path = ascii "a.2" ∨ path = ascii "a.5" := by
  by_contra other
  simp only [not_or] at other
  rw [gapFiles, if_neg notBase, if_neg other.1, if_neg other.2] at present
  exact present rfl

theorem gap_held : Held gapRotater (ascii "a") [(2, ascii "old"), (5, ascii "older")] gapFiles where
  sorted := by decide
  named := by
    intro entry member
    simp only [List.mem_cons, List.not_mem_nil, or_false] at member
    cases member with
    | inl first => exact first ▸ ⟨ascii "a.2", by decide, by decide⟩
    | inr second => exact second ▸ ⟨ascii "a.5", by decide, by decide⟩
  only := by
    intro path _ notBase present
    cases gap_present path present notBase with
    | inl first => exact ⟨_, List.mem_cons_self, first ▸ by decide⟩
    | inr second => exact ⟨_, List.mem_cons_of_mem _ List.mem_cons_self, second ▸ by decide⟩

theorem gap_listing : Listing gapRotater gapFiles [ascii "a.5", ascii "a.2"] where
  once := by decide
  exact := by
    intro path
    have room : gapRotater.before.length < 1024 := by decide
    simp only [List.mem_cons, List.not_mem_nil, or_false, GlobMatch, if_pos room]
    constructor
    · intro member
      cases member with
      | inl first => exact first ▸ ⟨by decide, ascii "5", by decide, by decide, fun _ => by decide⟩
      | inr second => exact second ▸ ⟨by decide, ascii "2", by decide, by decide, fun _ => by decide⟩
    · intro found
      obtain ⟨present, star, whole, _⟩ := found
      have notBase : path ≠ ascii "a" := by
        intro base
        have length := congrArg List.length (base.symm.trans whole)
        simp [gapRotater, ascii] at length
      exact (gap_present path present notBase).symm

theorem rolled_archives_gap :
    ∃ after, gapRotater.rollFiles (ascii "a") 0 (fun _ => true)
        (gapRotater.addArchiveFiles (ascii "a") [ascii "a.5", ascii "a.2"]) gapFiles =
      (after, true) ∧ after (ascii "a.1") = some (ascii "older") ∧ after (ascii "a.2") = none := by
  obtain ⟨after, rolled, _, stores, _⟩ := rolled_archives gapRotater (ascii "a") gap_regular 0 [(2, ascii "old"), (5, ascii "older")]
    gapFiles (ascii "new") [ascii "a.5", ascii "a.2"] gap_held (by simp) gap_listing (by decide)
    (by
      intro number small
      have short : number = 0 ∨ number = 1 ∨ number = 2 := by
        simp at small
        omega
      rcases short with rfl | rfl | rfl
      · exact ⟨ascii "a.0", by decide⟩
      · exact ⟨ascii "a.1", by decide⟩
      · exact ⟨ascii "a.2", by decide⟩)
  have sent : carried 2 [(2, ascii "old"), (5, ascii "older")] 0 = some (ascii "older") := by
    rw [carried, source_moved 2 _ 0 (2, ascii "old") rfl (by decide), source_kept]
    · rfl
    · intro later
      obtain ⟨entry, found, gap⟩ := later
      cases found
      exact absurd gap (by decide)
  refine ⟨after, rolled, ?_, ?_⟩
  · refine (stores 1 (ascii "a.1") (by decide) _).mpr (.inr ⟨0, by decide, rfl, ?_, sent⟩)
    intro between entry _ before
    omega
  · rw [Option.eq_none_iff_forall_ne_some]
    intro bytes present
    cases (stores 2 (ascii "a.2") (by decide) bytes).mp present with
    | inl zero => cases zero.1
    | inr moved =>
        obtain ⟨place, _, same, settled, _⟩ := moved
        exact settled 0 (2, ascii "old") (by omega) (by omega) rfl same

end Rotater

end Zlog
