import RamsesProxy.Lib.CText
import RamsesProxy.Lib.Files

set_option autoImplicit false

namespace Zlog

open CText

inductive MvType where
  | rolling
  | sequence
deriving DecidableEq

-- The archive path cut at its number: glob_path is before, a star and after.
structure Rotater where
  before : Bytes
  after : Bytes
  numWidth : Int
  mvType : MvType

structure ArchiveFile where
  index : Int
  path : Bytes
deriving DecidableEq

namespace Rotater

def parseMvType : Bytes → Option (MvType × Bytes)
  | 114 :: rest => some (.rolling, rest)
  | 115 :: rest => some (.sequence, rest)
  | _ => none

-- zlog_rotater_parse_archive_path. The text of a glob path that is one byte too long is
-- taken without its last byte.
def parseArchivePath (basePath archivePath : Bytes) : Option Rotater :=
  if archivePath = [] then
    if 1025 < basePath.length + 2 then none
    else some { before := basePath ++ [46], after := [], numWidth := 0, mvType := .rolling }
  else
    match archivePath.dropWhile (· != 35) with
    | [] => none
    | _ :: rest => do
        let scanned := (scanD rest).getD (0, 0)
        let (mvType, after) ← parseMvType (rest.drop scanned.2)
        let before := archivePath.takeWhile (· != 35)
        if 1024 < before.length ∨ 1025 < before.length + 1 + after.length then none
        else some { before := before, after := after.take (1023 - before.length), numWidth := scanned.1, mvType := mvType }

def archivePathOf (rotater : Rotater) (index : Int) : Option Bytes :=
  let path := rotater.before ++ paddedSigned rotater.numWidth index ++ rotater.after
  if path.length ≤ 1024 then some path else none

def checkNew (rotater : Rotater) (basePath path : Bytes) : Option ArchiveFile :=
  if basePath = path then none
  else if path.getLast? = some 47 then none
  else if 1024 < path.length then none
  else
    let scanned := (scanD (path.drop rotater.before.length)).getD (0, 0)
    if rotater.numWidth ≠ 0 ∧ (scanned.2 : Int) < rotater.numWidth then none
    else some ⟨scanned.1, path⟩

-- zc_arraylist_sortadd with zlog_file_cmp.
def sortadd (data : ArchiveFile) : List ArchiveFile → List ArchiveFile
  | [] => [data]
  | file :: rest => if data.index < file.index then data :: file :: rest else file :: sortadd data rest

def addArchiveFiles (rotater : Rotater) (basePath : Bytes) (listed : List Bytes) : List ArchiveFile :=
  (listed.filterMap (rotater.checkNew basePath)).foldl (fun files file => sortadd file files) []

end Rotater

abbrev Calls := Nat → Bool

namespace Rotater

variable (rotater : Rotater) (basePath : Bytes) (maxCount : Int) (works : Calls)

def moveBase (index : Int) (files : Files) : Files × Bool :=
  match rotater.archivePathOf index with
  | none => (files, false)
  | some path =>
      match files.rename basePath path with
      | none => (files, false)
      | some moved => (moved, true)

def rollFrom (list : List ArchiveFile) : Nat → Files → Files × Bool
  | 0, files => (files, true)
  | position + 1, files =>
      match list[position]? with
      | none => (files, false)
      | some file =>
          if works position = false then (files, false)
          else if 0 < maxCount ∧ maxCount - 1 ≤ position then
            match files.unlink file.path with
            | none => (files, false)
            | some removed => rollFrom list position removed
          else
            match rotater.archivePathOf (position + 1 : Nat) with
            | none => (files, false)
            | some path =>
                match files.rename file.path path with
                | none => (files, false)
                | some moved => rollFrom list position moved

def rollFiles (list : List ArchiveFile) (files : Files) : Files × Bool :=
  let rolled := rotater.rollFrom maxCount works list list.length files
  if rolled.2 = false ∨ works list.length = false then (rolled.1, false) else rotater.moveBase basePath 0 rolled.1

def removeFrom (position : Nat) : List ArchiveFile → Files → Files × Bool
  | [], files => (files, true)
  | file :: rest, files =>
      if works position = false then (files, false)
      else
        match files.unlink file.path with
        | none => (files, false)
        | some removed => removeFrom (position + 1) rest removed

-- An int, which wraps.
def nextIndex (list : List ArchiveFile) : Int :=
  match list.getLast? with
  | none => 0
  | some file => (max ((list.length : Int) - 1) file.index + 1).bmod (2 ^ 32)

def seqFiles (list : List ArchiveFile) (files : Files) : Files × Bool :=
  let old := if 0 < maxCount then list.length - maxCount.toNat else 0
  let removed := removeFrom works 0 (list.take old) files
  if removed.2 = false ∨ works list.length = false then (removed.1, false)
  else rotater.moveBase basePath (nextIndex list) removed.1

end Rotater

-- What the world answers to one call: whether open and close succeed, how much write
-- takes, whether another has the lock, what glob lists (none when it fails), and which of
-- the moves succeed.
structure Answers where
  opened : Bool
  wrote : Option Nat
  closed : Bool
  locked : Bool
  listed : Option (List Bytes)
  works : Calls

structure ArchiveRule where
  filePath : Bytes
  archivePath : Bytes
  archiveMaxSize : Nat
  archiveMaxCount : Int

namespace ArchiveRule

def lsmv (rule : ArchiveRule) (answers : Answers) (files : Files) : Files × Bool :=
  match Rotater.parseArchivePath rule.filePath rule.archivePath, answers.listed with
  | some rotater, some listed =>
      let list := rotater.addArchiveFiles rule.filePath listed
      match rotater.mvType with
      | .rolling => rotater.rollFiles rule.filePath rule.archiveMaxCount answers.works list files
      | .sequence => rotater.seqFiles rule.filePath rule.archiveMaxCount answers.works list files
  | _, _ => (files, false)

def size (rule : ArchiveRule) (files : Files) : Nat := ((files rule.filePath).getD []).length

def rotate (rule : ArchiveRule) (msgLen : Nat) (answers : Answers) (files : Files) : Files × Bool :=
  if answers.locked = true then (files, true)
  else if rule.size files + msgLen ≤ rule.archiveMaxSize then (files, true)
  else rule.lsmv answers files

def taken (message : Bytes) (answers : Answers) : Bytes := if answers.opened = true then message.take (answers.wrote.getD 0) else []

-- zlog_rule_output_static_file_rotate, for a message that has been formatted.
def outputRotate (rule : ArchiveRule) (message : Bytes) (answers : Answers) (files : Files) : Files × Bool :=
  if answers.opened = false then (files, false)
  else
    let written := files.append rule.filePath (taken message answers)
    if answers.wrote = none ∨ answers.closed = false then (written, false)
    else if rule.archiveMaxSize < message.length then (written, true)
    else if rule.size written + message.length < rule.archiveMaxSize then (written, true)
    else rule.rotate message.length answers written

def step (rule : ArchiveRule) (files : Files) (event : Bytes × Answers) : Option Files :=
  some (rule.outputRotate event.1 event.2 files).1

end ArchiveRule

end Zlog
