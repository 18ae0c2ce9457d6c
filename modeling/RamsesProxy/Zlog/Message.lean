import RamsesProxy.Zlog.Buf
import RamsesProxy.Zlog.HashTable
import RamsesProxy.Zlog.Rule

set_option autoImplicit false

namespace Zlog

open CText

def toLower (byte : UInt8) : UInt8 := if 65 ≤ byte ∧ byte ≤ 90 then byte + 32 else byte

-- zlog_level_list_get. None where the source goes through a pointer it does not have: the
-- slot of a negative level, or the slot of UNKNOWN when that is empty.
def LevelList.get (levels : LevelList) (level : Int) : Option Bytes :=
  if level < 0 then none
  else
    match levels.slots[level.toNat]? with
    | some (some name) => some name
    | _ => (levels.slots[254]?).join

-- The value is cut to what the array holds, its length is not.
structure MdcKv where
  key : Bytes
  value : Bytes
  valueLen : Nat

def MdcKv.new (key value : Bytes) : MdcKv := ⟨key.take 1024, value.take 1024, value.length⟩

abbrev Mdc := HashTable Bytes MdcKv

namespace Mdc

def new : Mdc := HashTable.new 20

def put (kvAllocated tabAllocated entryAllocated : Bool) (key value : Bytes) (mdc : Mdc) : Mdc × Bool :=
  if kvAllocated = false then (mdc, false)
  else
    let result := HashTable.put strKeying tabAllocated entryAllocated (MdcKv.new key value).key (MdcKv.new key value) mdc
    (result.1, result.2.1)

def getKv (key : Bytes) (mdc : Mdc) : Option MdcKv := HashTable.get strKeying key mdc

end Mdc

-- What the user gives: a format that vsnprintf has formatted or refused, no format, a
-- buffer to show in hex, or no buffer.
inductive Usrmsg where
  | fmt (formatted : Option Bytes)
  | noFmt
  | hex (hexBuf : Bytes)
  | noHex

structure Request where
  categoryName : Bytes
  file : Option Bytes
  func : Option Bytes
  line : Int
  level : Int
  usrmsg : Usrmsg

structure TimeCache where
  str : Bytes
  sec : Nat
deriving DecidableEq

-- The functions of <time.h>; strftime gives nothing when the text is too long.
structure Libc (Tm : Type) where
  localtime : Nat → Tm
  strftime : Bytes → Tm → Bytes

structure Event (Tm : Type) where
  request : Request
  hostName : Bytes
  tidStr : Bytes
  tidHexStr : Bytes
  stampSec : Nat
  stampUsec : Nat
  timeLocalSec : Nat
  timeLocal : Tm
  timeCaches : List TimeCache
  pid : Nat
  lastPid : Nat
  pidStr : Bytes

namespace Event

variable {Tm : Type}

def set (request : Request) (event : Event Tm) : Event Tm := { event with request := request, pid := 0, stampSec := 0 }

def fetchTime (now : Nat × Nat) (event : Event Tm) : Event Tm :=
  if event.stampSec = 0 then { event with stampSec := now.1, stampUsec := now.2 } else event

def fetchLocal (libc : Libc Tm) (event : Event Tm) : Event Tm :=
  if event.timeLocalSec ≠ event.stampSec then { event with timeLocal := libc.localtime event.stampSec, timeLocalSec := event.stampSec }
  else event

def fetchCache (libc : Libc Tm) (timeFmt : Bytes) (index : Nat) (event : Event Tm) : Option (Event Tm × Bytes) := do
  let cache ← event.timeCaches[index]?
  if cache.sec ≠ event.stampSec then
    let str := libc.strftime timeFmt event.timeLocal
    some ({ event with timeCaches := event.timeCaches.set index ⟨str, event.stampSec⟩ }, str)
  else some (event, cache.str)

def fetchPid (pid : Nat) (event : Event Tm) : Event Tm :=
  if event.pid = 0 then
    if pid ≠ event.lastPid then { event with pid := pid, lastPid := pid, pidStr := decimal pid } else { event with pid := pid }
  else event

end Event

inductive Conversion where
  | str (text : Bytes)
  | time (timeFmt : Bytes) (timeCacheIndex : Nat)
  | mdc (mdcKey : Bytes)
  | ms
  | us
  | category
  | srcfile
  | srcfileNeat
  | hostname
  | srcline
  | usrmsg
  | newline
  | pid
  | srcfunc
  | levelLowercase
  | levelUppercase
  | tidHex
  | tidLong
  | percent
deriving DecidableEq

structure Adjust where
  leftAdjust : Bool
  minWidth : Nat
  maxWidth : Nat
deriving DecidableEq

-- gen_msg, gen_path and gen_archive_path reformat when there is an adjust.
structure Spec where
  conversion : Conversion
  adjust : Option Adjust
deriving DecidableEq

namespace Hex

def head : Bytes := ascii "\n             0  1  2  3  4  5  6  7  8  9  A  B  C  D  E  F    0123456789ABCDEF"

def cell (hexBuf : Bytes) (offset : Nat) : List Buf.Op :=
  match hexBuf[offset]? with
  | some byte => [.printfHex byte.toUInt32 2, .append (ascii " ")]
  | none => [.append (ascii "   ")]

def char (hexBuf : Bytes) (offset : Nat) : Buf.Op :=
  match hexBuf[offset]? with
  | some byte => if 32 ≤ byte ∧ byte ≤ 126 then .append [byte] else .append (ascii ".")
  | none => .append (ascii " ")

def line (hexBuf : Bytes) (lineOffset : Nat) : List Buf.Op :=
  [.append (ascii "\n"), .printfDec64 (UInt64.ofNat (lineOffset + 1)) 10, .append (ascii "   ")] ++
    (List.range 16).flatMap (fun byteOffset => cell hexBuf (lineOffset * 16 + byteOffset)) ++ [.append (ascii "  ")] ++
    (List.range 16).map fun byteOffset => char hexBuf (lineOffset * 16 + byteOffset)

def lines (hexBuf : Bytes) : Nat → Nat → List Buf.Op
  | 0, _ => []
  | rounds + 1, lineOffset =>
      line hexBuf lineOffset ++ if hexBuf.length ≤ lineOffset * 16 + 16 then [] else lines hexBuf rounds (lineOffset + 1)

def dump (hexBuf : Bytes) : List Buf.Op := .append head :: lines hexBuf (hexBuf.length / 16 + 1) 0

end Hex

def Usrmsg.ops : Usrmsg → List Buf.Op
  | .fmt formatted => [.vprintf formatted]
  | .noFmt => [.append (ascii "format=(null)")]
  | .hex hexBuf => Hex.dump hexBuf
  | .noHex => [.append (ascii "buf=(null)")]

-- What the world answers while one spec is written: gettimeofday, getpid, and which of
-- the reallocs succeed, those of the writes and that of the adjust.
structure SpecAnswers where
  now : Nat × Nat
  pid : Nat
  grants : Nat → Bool
  adjustGrant : Bool

def afterSlash (file : Bytes) : Bytes := (file.reverse.takeWhile (· != 47)).reverse

section Write

variable {Tm : Type} (libc : Libc Tm) (levels : LevelList) (mdc : Mdc) (answers : SpecAnswers)

-- The write functions of spec.c, as what they keep in the event and what they write to the
-- buffer they are given. None where they go through a null pointer or past an array.
def Conversion.writes (event : Event Tm) : Conversion → Option (Event Tm × List Buf.Op)
  | .str text => some (event, [.append text])
  | .time timeFmt index =>
      (((event.fetchTime answers.now).fetchLocal libc).fetchCache libc timeFmt index).map fun fetched => (fetched.1, [.append fetched.2])
  | .mdc mdcKey =>
      match mdc.getKv mdcKey with
      | none => some (event, [])
      | some kv => if kv.valueLen ≤ 1025 then some (event, [.append ((kv.value ++ [0]).take kv.valueLen)]) else none
  | .ms =>
      let event := event.fetchTime answers.now
      some (event, [.printfDec32 (UInt32.ofNat (event.stampUsec / 1000)) 3])
  | .us =>
      let event := event.fetchTime answers.now
      some (event, [.printfDec32 (UInt32.ofNat event.stampUsec) 6])
  | .category => some (event, [.append event.request.categoryName])
  | .srcfile => some (event, [.append (event.request.file.getD (ascii "(file=null)"))])
  | .srcfileNeat => event.request.file.map fun file => (event, [.append (afterSlash file)])
  | .hostname => some (event, [.append event.hostName])
  | .srcline => some (event, [.printfDec64 (UInt64.ofInt event.request.line) 0])
  | .usrmsg => some (event, event.request.usrmsg.ops)
  | .newline => some (event, [.append (ascii "\n")])
  | .pid =>
      let event := event.fetchPid answers.pid
      some (event, [.append event.pidStr])
  | .srcfunc =>
      match event.request.file with
      | none => some (event, [.append (ascii "(func=null)")])
      | some _ => event.request.func.map fun func => (event, [.append func])
  | .levelLowercase => (levels.get event.request.level).map fun name => (event, [.append (name.map toLower)])
  | .levelUppercase => (levels.get event.request.level).map fun name => (event, [.append name])
  | .tidHex => some (event, [.append event.tidHexStr])
  | .tidLong => some (event, [.append event.tidStr])
  | .percent => some (event, [.append (ascii "%")])

def Buf.performAll (grants : Nat → Bool) : Nat → List Buf.Op → Buf → Option (Buf × Rc)
  | _, [], buf => some (buf, .success)
  | count, op :: rest, buf => do
      let (next, rc) ← buf.write (grants count) op
      if rc = .success then performAll grants (count + 1) rest next else some (next, rc)

structure Pad where
  pre : Buf
  out : Buf

-- zlog_spec_gen_msg_direct and zlog_spec_gen_msg_reformat, and the same for the paths.
def Spec.gen (spec : Spec) (event : Event Tm) (pad : Pad) : Option (Event Tm × Pad × Rc) := do
  let (event, ops) ← spec.conversion.writes libc levels mdc answers event
  match spec.adjust with
  | none =>
      let (out, rc) ← pad.out.performAll answers.grants 0 ops
      some (event, { pad with out := out }, rc)
  | some adjust =>
      let (pre, rc) ← pad.pre.restart.performAll answers.grants 0 ops
      if rc = .fail then some (event, { pad with pre := pre }, .fail)
      else
        let (out, rc) ← pad.out.write answers.adjustGrant
          (.adjustAppend (pre.content.getD []) adjust.leftAdjust adjust.minWidth adjust.maxWidth)
        some (event, ⟨pre, out⟩, rc)

end Write

section Generate

variable {Tm : Type} (libc : Libc Tm) (levels : LevelList) (mdc : Mdc)

def genAll : List (Spec × SpecAnswers) → Event Tm → Pad → Option (Event Tm × Pad × Bool)
  | [], event, pad => some (event, pad, true)
  | (spec, answers) :: rest, event, pad => do
      let (event, pad, rc) ← spec.gen libc levels mdc answers event pad
      if rc = .success then genAll rest event pad else some (event, pad, false)

-- zlog_format_gen_msg; zlog_rule_gen_path and zlog_rule_gen_archive_path are the same on
-- their own buffers. False is -1, also when the buffer is full.
def generate (specs : List (Spec × SpecAnswers)) (event : Event Tm) (pad : Pad) : Option (Event Tm × Pad × Bool) :=
  genAll libc levels mdc specs event { pad with out := pad.out.restart }

end Generate

inductive Target where
  | msg
  | path
  | archivePath
deriving DecidableEq

structure Thread (Tm : Type) where
  mdc : Mdc
  event : Event Tm
  prePathBuf : Buf
  pathBuf : Buf
  archivePathBuf : Buf
  preMsgBuf : Buf
  msgBuf : Buf

namespace Thread

variable {Tm : Type}

def pad (target : Target) (thread : Thread Tm) : Pad :=
  match target with
  | .msg => ⟨thread.preMsgBuf, thread.msgBuf⟩
  | .path => ⟨thread.prePathBuf, thread.pathBuf⟩
  | .archivePath => ⟨thread.prePathBuf, thread.archivePathBuf⟩

def setPad (target : Target) (pad : Pad) (thread : Thread Tm) : Thread Tm :=
  match target with
  | .msg => { thread with preMsgBuf := pad.pre, msgBuf := pad.out }
  | .path => { thread with prePathBuf := pad.pre, pathBuf := pad.out }
  | .archivePath => { thread with prePathBuf := pad.pre, archivePathBuf := pad.out }

-- zlog_thread_new with zlog_event_new. The struct tm is zeroed.
def new (bufSizeMin bufSizeMax timeCacheCount : Nat) (hostName tidStr tidHexStr : Bytes) (request : Request) (zeroTm : Tm) :
    Option (Thread Tm) := do
  let preMsgBuf ← Buf.new bufSizeMin bufSizeMax (ascii "...\n")
  let msgBuf ← Buf.new bufSizeMin bufSizeMax (ascii "...\n")
  let prePathBuf ← Buf.new 1025 1025 []
  let pathBuf ← Buf.new 1025 1025 []
  let archivePathBuf ← Buf.new 1025 1025 []
  some
    { mdc := Mdc.new
      event :=
        { request := request, hostName := hostName, tidStr := tidStr, tidHexStr := tidHexStr, stampSec := 0, stampUsec := 0
          timeLocalSec := 0, timeLocal := zeroTm, timeCaches := List.replicate timeCacheCount ⟨[], 0⟩
          pid := 0, lastPid := 0, pidStr := [] }
      prePathBuf := prePathBuf, pathBuf := pathBuf, archivePathBuf := archivePathBuf, preMsgBuf := preMsgBuf, msgBuf := msgBuf }

end Thread

inductive ThreadCall where
  | setEvent (request : Request)
  | gen (target : Target) (specs : List (Spec × SpecAnswers))
  | putMdc (kvAllocated tabAllocated entryAllocated : Bool) (key value : Bytes)
  | removeMdc (key : Bytes)
  | cleanMdc

namespace Thread

variable {Tm : Type} (libc : Libc Tm) (levels : LevelList)

def call (thread : Thread Tm) : ThreadCall → Option (Thread Tm × Bool)
  | .setEvent request => some ({ thread with event := thread.event.set request }, true)
  | .gen target specs =>
      (generate libc levels thread.mdc specs thread.event (thread.pad target)).map fun done =>
        (({ thread with event := done.1 }).setPad target done.2.1, done.2.2)
  | .putMdc kvAllocated tabAllocated entryAllocated key value =>
      let result := thread.mdc.put kvAllocated tabAllocated entryAllocated key value
      some ({ thread with mdc := result.1 }, result.2)
  | .removeMdc key => some ({ thread with mdc := (HashTable.remove strKeying key thread.mdc).1 }, true)
  | .cleanMdc => some ({ thread with mdc := (HashTable.clean thread.mdc).1 }, true)

def step (thread : Thread Tm) (event : ThreadCall) : Option (Thread Tm) := (thread.call libc levels event).map Prod.fst

def results (thread : Thread Tm) (event : ThreadCall) (next : Thread Tm) : List (Option Bytes) :=
  match event with
  | .gen target _ =>
      match thread.call libc levels event with
      | some (_, true) => [(next.pad target).out.content]
      | _ => [none]
  | _ => []

end Thread

end Zlog
