import Mathlib.Data.List.Nodup
import Mathlib.Data.List.Perm.Basic
import RamsesProxy.Zlog.Rotater

set_option autoImplicit false

namespace Zlog

open CText

-- What glob matches of before, a star and after: the star takes no slash, and where it
-- begins a name that name begins with no dot. There is no star when before takes up all
-- of glob_path.
def GlobMatch (rotater : Rotater) (path : Bytes) : Prop :=
  if rotater.before.length < 1024 then
    ∃ star, path = rotater.before ++ star ++ rotater.after ∧ (47 : UInt8) ∉ star ∧
      (rotater.before = [] ∨ rotater.before.getLast? = some 47 → (star ++ rotater.after).head? ≠ some (46 : UInt8))
  else path = rotater.before

-- glob with GLOB_NOSORT gives every file that matches once, in any order.
structure Listing (rotater : Rotater) (files : Files) (listed : List Bytes) : Prop where
  once : listed.Nodup
  exact : ∀ path, path ∈ listed ↔ files path ≠ none ∧ GlobMatch rotater path

-- The star is the only special character of glob_path, the number of an archive can be
-- read back, and no archive has the name of the log file.
structure Regular (rotater : Rotater) (basePath : Bytes) : Prop where
  plain : ∀ byte ∈ rotater.before ++ rotater.after, byte ∉ ascii "*?[\\"
  ends : ∀ byte ∈ rotater.after.head?, isDigit byte = false
  file : rotater.after.getLast? ≠ some 47
  apart : ∀ index : Nat, rotater.archivePathOf index ≠ some basePath

structure Held (rotater : Rotater) (basePath : Bytes) (entries : List (Nat × Bytes)) (files : Files) : Prop where
  sorted : entries.Pairwise fun left right => left.1 < right.1
  named : ∀ entry ∈ entries, ∃ path, rotater.archivePathOf entry.1 = some path ∧ files path = some entry.2
  only : ∀ path, GlobMatch rotater path → path ≠ basePath → files path ≠ none →
    ∃ entry ∈ entries, rotater.archivePathOf entry.1 = some path

def fileOf (rotater : Rotater) (entry : Nat × Bytes) : ArchiveFile := ⟨entry.1, (rotater.archivePathOf entry.1).getD []⟩

namespace Rotater

theorem sortadd_perm (data : ArchiveFile) (list : List ArchiveFile) : (sortadd data list).Perm (data :: list) := by
  induction list with
  | nil => exact List.Perm.refl _
  | cons file rest ih =>
      by_cases before : data.index < file.index
      · rw [sortadd, if_pos before]
      · rw [sortadd, if_neg before]
        exact (ih.cons file).trans (List.Perm.swap data file rest)

theorem sortadd_sorted (data : ArchiveFile) (list : List ArchiveFile) (sorted : list.Pairwise fun left right => left.index ≤ right.index) :
    (sortadd data list).Pairwise fun left right => left.index ≤ right.index := by
  induction list with
  | nil => simp [sortadd]
  | cons file rest ih =>
      obtain ⟨first, others⟩ := List.pairwise_cons.mp sorted
      by_cases before : data.index < file.index
      · rw [sortadd, if_pos before]
        refine List.pairwise_cons.mpr ⟨?_, sorted⟩
        intro other member
        cases List.mem_cons.mp member with
        | inl here => rw [here]; exact Int.le_of_lt before
        | inr later => exact Int.le_trans (Int.le_of_lt before) (first other later)
      · rw [sortadd, if_neg before]
        refine List.pairwise_cons.mpr ⟨?_, ih others⟩
        intro other member
        cases List.mem_cons.mp ((sortadd_perm data rest).mem_iff.mp member) with
        | inl here => rw [here]; exact Int.not_lt.mp before
        | inr later => exact first other later

theorem sortadd_all (found sorted : List ArchiveFile) (ordered : sorted.Pairwise fun left right => left.index ≤ right.index) :
    (found.foldl (fun files file => sortadd file files) sorted).Perm (found ++ sorted) ∧
      (found.foldl (fun files file => sortadd file files) sorted).Pairwise fun left right => left.index ≤ right.index := by
  induction found generalizing sorted with
  | nil => exact ⟨List.Perm.refl _, ordered⟩
  | cons file rest ih =>
      obtain ⟨perm, pairwise⟩ := ih (sortadd file sorted) (sortadd_sorted file sorted ordered)
      exact ⟨perm.trans (((sortadd_perm file sorted).append_left rest).trans List.perm_middle), pairwise⟩

section Names

variable (rotater : Rotater) (basePath : Bytes) (regular : Regular rotater basePath)

theorem archive_path_eq (index : Nat) (path : Bytes) (named : rotater.archivePathOf index = some path) :
    path = rotater.before ++ padded rotater.numWidth index ++ rotater.after ∧ path.length ≤ 1024 := by
  unfold archivePathOf at named
  rw [padded_signed_nat] at named
  by_cases short : (rotater.before ++ padded rotater.numWidth index ++ rotater.after).length ≤ 1024
  · rw [if_pos short] at named
    cases named
    exact ⟨rfl, short⟩
  · rw [if_neg short] at named
    cases named

theorem padded_bytes (width : Int) (number : Nat) (byte : UInt8) (member : byte ∈ padded width number) :
    isDigit byte = true ∨ byte = 32 := by
  unfold padded at member
  by_cases positive : 0 ≤ width
  · rw [if_pos positive] at member
    cases List.mem_append.mp member with
    | inl zero => rw [List.eq_of_mem_replicate zero]; exact .inl rfl
    | inr digit => exact .inl (decimal_digits number byte digit)
  · rw [if_neg positive] at member
    cases List.mem_append.mp member with
    | inl digit => exact .inl (decimal_digits number byte digit)
    | inr blank => exact .inr (List.eq_of_mem_replicate blank)

theorem padded_nonempty (width : Int) (number : Nat) : padded width number ≠ [] := by
  obtain ⟨first, rest, digits, _⟩ := decimal_cons number
  unfold padded
  by_cases positive : 0 ≤ width
  · simp [if_pos positive, digits]
  · simp [if_neg positive, digits]

theorem padded_ne (width : Int) (number : Nat) (byte other : UInt8) (member : byte ∈ padded width number)
    (notDigit : isDigit other = false) (notBlank : other ≠ 32) : byte ≠ other := by
  intro same
  subst same
  cases padded_bytes width number byte member with
  | inl digit => exact absurd (digit.symm.trans notDigit) (by simp)
  | inr blank => exact notBlank blank

theorem archive_path_matches (index : Nat) (path : Bytes) (named : rotater.archivePathOf index = some path) :
    GlobMatch rotater path := by
  obtain ⟨whole, short⟩ := archive_path_eq rotater index path named
  obtain ⟨first, rest, number⟩ := List.exists_cons_of_ne_nil (padded_nonempty rotater.numWidth index)
  have room : rotater.before.length < 1024 := by
    rw [whole, number] at short
    simp only [List.length_append, List.length_cons] at short
    omega
  rw [GlobMatch, if_pos room]
  refine ⟨padded rotater.numWidth index, whole, ?_, fun _ dot => ?_⟩
  · intro slash
    exact padded_ne _ _ 47 47 slash rfl (by decide) rfl
  · rw [number] at dot
    exact padded_ne rotater.numWidth index 46 46 (by rw [number, Option.some.inj dot]; exact List.mem_cons_self) rfl (by decide) rfl

include regular

theorem archive_path_checked (index : Nat) (path : Bytes) (named : rotater.archivePathOf index = some path) (small : index < 2 ^ 31) :
    rotater.checkNew basePath path = some ⟨index, path⟩ := by
  obtain ⟨whole, short⟩ := archive_path_eq rotater index path named
  obtain ⟨count, scanned, wide⟩ := padded_scanned_int rotater.numWidth index rotater.after regular.ends small
  have apart : basePath ≠ path := fun same => regular.apart index (same ▸ named)
  have notDirectory : path.getLast? ≠ some 47 := by
    intro slash
    rw [whole, List.getLast?_append] at slash
    cases last : rotater.after.getLast? with
    | some byte =>
        rw [last] at slash
        exact regular.file (last.trans slash)
    | none =>
        rw [last, Option.none_or, List.getLast?_append_of_ne_nil _ (padded_nonempty rotater.numWidth index)] at slash
        exact padded_ne _ _ 47 47 (List.mem_of_getLast? slash) rfl (by decide) rfl
  have text : path.drop rotater.before.length = padded rotater.numWidth index ++ rotater.after := by
    rw [whole, List.append_assoc, List.drop_left]
  have enough : ¬ (rotater.numWidth ≠ 0 ∧ (count : Int) < rotater.numWidth) := by omega
  simp only [checkNew, if_neg apart, if_neg notDirectory, if_neg (Nat.not_lt.mpr short), text, scanned, Option.getD_some, if_neg enough]

theorem archive_path_injective (left right : Nat) (path : Bytes) (leftNamed : rotater.archivePathOf left = some path)
    (rightNamed : rotater.archivePathOf right = some path) : left = right := by
  have texts := (archive_path_eq rotater left path leftNamed).1.symm.trans (archive_path_eq rotater right path rightNamed).1
  rw [List.append_assoc, List.append_assoc] at texts
  obtain ⟨leftCount, leftScanned, _⟩ := padded_scanned rotater.numWidth left rotater.after regular.ends
  obtain ⟨rightCount, rightScanned, _⟩ := padded_scanned rotater.numWidth right rotater.after regular.ends
  rw [List.append_cancel_left texts, rightScanned] at leftScanned
  have same := (Prod.mk.inj (Option.some.inj leftScanned)).1
  omega

omit regular in
theorem checked_path (path : Bytes) (file : ArchiveFile) (checked : rotater.checkNew basePath path = some file) :
    path ≠ basePath ∧ file.path = path := by
  unfold checkNew at checked
  by_cases base : basePath = path
  · rw [if_pos base] at checked
    cases checked
  · rw [if_neg base] at checked
    by_cases directory : path.getLast? = some 47
    · rw [if_pos directory] at checked
      cases checked
    · rw [if_neg directory] at checked
      by_cases long : 1024 < path.length
      · rw [if_pos long] at checked
        cases checked
      · rw [if_neg long] at checked
        dsimp only at checked
        by_cases narrow : rotater.numWidth ≠ 0 ∧
            ((((scanD (path.drop rotater.before.length)).getD (0, 0)).2 : Nat) : Int) < rotater.numWidth
        · rw [if_pos narrow] at checked
          cases checked
        · rw [if_neg narrow] at checked
          cases checked
          exact ⟨Ne.symm base, rfl⟩

omit regular in
theorem file_of_eq (entry : Nat × Bytes) (path : Bytes) (named : rotater.archivePathOf entry.1 = some path) :
    fileOf rotater entry = ⟨entry.1, path⟩ := by
  rw [fileOf, named, Option.getD_some]

theorem archives_found (entries : List (Nat × Bytes)) (files : Files) (listed : List Bytes) (held : Held rotater basePath entries files)
    (small : ∀ entry ∈ entries, entry.1 < 2 ^ 31) (listing : Listing rotater files listed) (file : ArchiveFile) :
    file ∈ listed.filterMap (rotater.checkNew basePath) ↔ file ∈ entries.map (fileOf rotater) := by
  rw [List.mem_filterMap, List.mem_map]
  constructor
  · intro found
    obtain ⟨path, member, checked⟩ := found
    obtain ⟨present, matched⟩ := (listing.exact path).mp member
    obtain ⟨entry, inside, named⟩ := held.only path matched (checked_path rotater basePath path file checked).1 present
    have numbered := archive_path_checked rotater basePath regular entry.1 path named (small entry inside)
    cases checked.symm.trans numbered
    exact ⟨entry, inside, file_of_eq rotater entry path named⟩
  · intro found
    obtain ⟨entry, inside, rfl⟩ := found
    obtain ⟨path, named, stored⟩ := held.named entry inside
    refine ⟨path, (listing.exact path).mpr ⟨by simp [stored], archive_path_matches rotater entry.1 path named⟩, ?_⟩
    rw [file_of_eq rotater entry path named]
    exact archive_path_checked rotater basePath regular entry.1 path named (small entry inside)

omit regular in
theorem file_of_index (entries : List (Nat × Bytes)) (sorted : entries.Pairwise fun left right => left.1 < right.1) :
    (entries.map (fileOf rotater)).Pairwise fun left right => left.index < right.index := by
  refine List.pairwise_map.mpr (sorted.imp ?_)
  intro left right less
  exact Int.ofNat_lt.mpr less

theorem archives_added (entries : List (Nat × Bytes)) (files : Files) (listed : List Bytes) (held : Held rotater basePath entries files)
    (small : ∀ entry ∈ entries, entry.1 < 2 ^ 31) (listing : Listing rotater files listed) :
    rotater.addArchiveFiles basePath listed = entries.map (fileOf rotater) := by
  have increasing := file_of_index rotater entries held.sorted
  have onceFound : (listed.filterMap (rotater.checkNew basePath)).Nodup := by
    apply List.Nodup.filterMap _ listing.once
    intro left right file leftChecked rightChecked
    exact (checked_path rotater basePath left file leftChecked).2.symm.trans (checked_path rotater basePath right file rightChecked).2
  have onceHeld : (entries.map (fileOf rotater)).Nodup := increasing.imp fun less same => by simp [same] at less
  have same := (List.perm_ext_iff_of_nodup onceFound onceHeld).mpr
    (archives_found rotater basePath regular entries files listed held small listing)
  obtain ⟨perm, sorted⟩ := sortadd_all (listed.filterMap (rotater.checkNew basePath)) [] List.Pairwise.nil
  rw [List.append_nil] at perm
  refine List.Perm.eq_of_pairwise ?_ sorted (increasing.imp Int.le_of_lt) (perm.trans same)
  intro left right leftMember rightMember low high
  have indices : ((entries.map (fileOf rotater)).map ArchiveFile.index).Nodup := List.pairwise_map.mpr (increasing.imp Int.ne_of_lt)
  exact List.inj_on_of_nodup_map indices ((perm.trans same).mem_iff.mp leftMember) rightMember (Int.le_antisymm low high)

section Moves

variable (files after : Files) (left right : List (Nat × Bytes)) (number : Nat) (content path : Bytes)
  (named : rotater.archivePathOf number = some path)

include named

end Moves

end Names

end Rotater

end Zlog
