import RamsesProxy.Lib.Machine
import RamsesProxy.Zlog.ArchiveFiles

set_option autoImplicit false

namespace Zlog

open CText

namespace Rotater

def kept (maxCount : Int) (entries : List (Nat × Bytes)) : List (Nat × Bytes) :=
  if 0 < maxCount then entries.take (maxCount - 1).toNat else entries

def shifted : Nat → List (Nat × Bytes) → List (Nat × Bytes)
  | _, [] => []
  | start, entry :: rest => (start + 1, entry.2) :: shifted (start + 1) rest

def rolling (maxCount : Int) (entries : List (Nat × Bytes)) (position : Nat) : List (Nat × Bytes) :=
  entries.take position ++ shifted position ((kept maxCount entries).drop position)

-- No archive is more than one number behind its place. A roll that stops early leaves
-- such a gap, and the next one closes it.
def Close (entries : List (Nat × Bytes)) : Prop := ∀ (position : Nat) entry, entries[position]? = some entry → entry.1 ≤ position + 1

section Shifted

end Shifted

section Rolling

variable (maxCount : Int) (entries : List (Nat × Bytes))

theorem kept_length_le : (kept maxCount entries).length ≤ entries.length := by
  unfold kept
  by_cases limited : 0 < maxCount
  · rw [if_pos limited]
    exact List.length_take_le' _ _
  · rw [if_neg limited]

theorem removed_iff (position : Nat) (inside : position < entries.length) :
    (0 < maxCount ∧ maxCount - 1 ≤ position) ↔ (kept maxCount entries).length ≤ position := by
  unfold kept
  by_cases limited : 0 < maxCount
  · rw [if_pos limited, List.length_take]
    omega
  · rw [if_neg limited]
    omega

section Step

variable (position : Nat) (entry : Nat × Bytes) (found : entries[position]? = some entry)
include found

end Step

variable (sorted : entries.Pairwise fun left right => left.1 < right.1) (close : Close entries)

end Rolling

def Untouched (rotater : Rotater) (basePath : Bytes) (files after : Files) : Prop :=
  ∀ path, path ≠ basePath → ¬ GlobMatch rotater path → after path = files path

section Roll

variable (rotater : Rotater) (basePath : Bytes) (regular : Regular rotater basePath) (maxCount : Int) (works : Calls)
  (entries : List (Nat × Bytes)) (sorted : entries.Pairwise fun left right => left.1 < right.1) (close : Close entries)

include regular in
theorem unlink_untouched (files after : Files) (number : Nat) (path : Bytes) (named : rotater.archivePathOf number = some path)
    (done : files.unlink path = some after) : after basePath = files basePath ∧ Untouched rotater basePath files after := by
  have changed := Files.unlinked files after path done
  constructor
  · have apart : basePath ≠ path := fun same => regular.apart number (same ▸ named)
    rw [changed, if_neg apart]
  · intro other _ notArchive
    have apart : other ≠ path := fun same => notArchive (same ▸ archive_path_matches rotater number path named)
    rw [changed, if_neg apart]

include regular in
theorem rename_untouched (files after : Files) (number new : Nat) (path target : Bytes)
    (named : rotater.archivePathOf number = some path) (targetNamed : rotater.archivePathOf new = some target)
    (done : files.rename path target = some after) : after basePath = files basePath ∧ Untouched rotater basePath files after := by
  have changed := Files.renamed files after path target done
  constructor
  · have notPath : basePath ≠ path := fun same => regular.apart number (same ▸ named)
    have notTarget : basePath ≠ target := fun same => regular.apart new (same ▸ targetNamed)
    rw [changed, if_neg notTarget, if_neg notPath]
  · intro other _ notArchive
    have notPath : other ≠ path := fun same => notArchive (same ▸ archive_path_matches rotater number path named)
    have notTarget : other ≠ target := fun same => notArchive (same ▸ archive_path_matches rotater new target targetNamed)
    rw [changed, if_neg notTarget, if_neg notPath]

include regular sorted close

end Roll

section Sequence

variable (rotater : Rotater) (basePath : Bytes) (regular : Regular rotater basePath) (works : Calls)

end Sequence

def ages (mvType : MvType) (entries : List (Nat × Bytes)) : List Bytes :=
  match mvType with
  | .rolling => (entries.map Prod.snd).reverse
  | .sequence => entries.map Prod.snd

-- A sequence removes old archives before it adds one, so it holds one more than asked.
def limit (mvType : MvType) (maxCount : Int) : Nat :=
  match mvType with
  | .rolling => maxCount.toNat
  | .sequence => maxCount.toNat + 1

structure Shelved (rotater : Rotater) (basePath : Bytes) (entries : List (Nat × Bytes)) (files : Files) : Prop where
  held : Held rotater basePath entries files
  close : rotater.mvType = .rolling → Close entries

structure Grown (mvType : MvType) (maxCount : Int) (entries moved : List (Nat × Bytes)) : Prop where
  numbers : ∀ bound, (∀ entry ∈ entries, entry.1 < bound) → ∀ entry ∈ moved, entry.1 < bound + 1
  count : 0 < maxCount → moved.length ≤ max entries.length (limit mvType maxCount)

-- What a rotation does, whether it goes through or stops early: the oldest archives may
-- go, and the log file may become the newest.
structure Moved (rotater : Rotater) (basePath : Bytes) (maxCount : Int) (entries : List (Nat × Bytes)) (files after : Files) : Prop where
  result : ∃ moved lost, Shelved rotater basePath moved after ∧ Grown rotater.mvType maxCount entries moved ∧
    (maxCount ≤ 0 → lost = []) ∧
    (after basePath = files basePath ∧ ages rotater.mvType entries = lost ++ ages rotater.mvType moved ∨
      ∃ content, files basePath = some content ∧ after basePath = none ∧
        ages rotater.mvType entries ++ [content] = lost ++ ages rotater.mvType moved)
  others : Untouched rotater basePath files after

section Moves

variable (rotater : Rotater) (basePath : Bytes) (regular : Regular rotater basePath) (maxCount : Int) (works : Calls)
  (entries : List (Nat × Bytes)) (files : Files) (shelved : Shelved rotater basePath entries files)
include shelved

include regular

end Moves

end Rotater

namespace ArchiveRule

open Rotater

variable (rule : ArchiveRule) (rotater : Rotater)

def held (entries : List (Nat × Bytes)) (files : Files) : Bytes :=
  (ages rotater.mvType entries).flatten ++ (files rule.filePath).getD []

section Output

variable (parsed : parseArchivePath rule.filePath rule.archivePath = some rotater) (regular : Regular rotater rule.filePath)
  (entries : List (Nat × Bytes)) (files : Files) (shelved : Shelved rotater rule.filePath entries files)

variable (small : ∀ entry ∈ entries, entry.1 + 1 < 2 ^ 31)
include parsed regular shelved small

omit small

end Output

end ArchiveRule

end Zlog
