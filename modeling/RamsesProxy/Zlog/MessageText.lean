import RamsesProxy.Zlog.HexDump

set_option autoImplicit false

namespace Zlog

open CText

-- The one reading of the clock and of the pid that a message shows.
structure Moment where
  sec : Nat
  usec : Nat
  pid : Nat

section Render

variable {Tm : Type} (libc : Libc Tm) (levels : LevelList) (mdc : Mdc) (event : Event Tm) (moment : Moment)

def Usrmsg.render : Usrmsg → Option Bytes
  | .fmt formatted => formatted
  | .noFmt => some (ascii "format=(null)")
  | .hex hexBuf => some (Hex.text hexBuf)
  | .noHex => some (ascii "buf=(null)")

def mdcText (mdcKey : Bytes) : Bytes :=
  match mdc.getKv mdcKey with
  | none => []
  | some kv => (kv.value ++ [0]).take kv.valueLen

-- What a conversion stands for, with no cache. None when the format is refused.
def Conversion.render : Conversion → Option Bytes
  | .str text => some text
  | .time timeFmt _ => some (libc.strftime timeFmt (libc.localtime moment.sec))
  | .mdc mdcKey => some (mdcText mdc mdcKey)
  | .ms => some (padded 3 (UInt32.ofNat (moment.usec / 1000)).toNat)
  | .us => some (padded 6 (UInt32.ofNat moment.usec).toNat)
  | .category => some event.request.categoryName
  | .srcfile => some (event.request.file.getD (ascii "(file=null)"))
  | .srcfileNeat => some (afterSlash (event.request.file.getD []))
  | .hostname => some event.hostName
  | .srcline => some (padded 0 (UInt64.ofInt event.request.line).toNat)
  | .usrmsg => event.request.usrmsg.render
  | .newline => some [10]
  | .pid => some (decimal moment.pid)
  | .srcfunc => some (if event.request.file = none then ascii "(func=null)" else event.request.func.getD [])
  | .levelLowercase => some (((levels.get event.request.level).getD []).map toLower)
  | .levelUppercase => some ((levels.get event.request.level).getD [])
  | .tidHex => some event.tidHexStr
  | .tidLong => some event.tidStr
  | .percent => some [37]

-- A text that is adjusted is first written to a buffer of its own, and cut there.
def Spec.render (cut : Bytes → Bytes) (spec : Spec) : Option Bytes :=
  (spec.conversion.render libc levels mdc event moment).map fun text =>
    match spec.adjust with
    | none => text
    | some adjust => Buf.adjusted adjust.leftAdjust adjust.minWidth adjust.maxWidth (cut text)

def renderAll (cut : Bytes → Bytes) : List Spec → Option Bytes
  | [] => some []
  | spec :: rest => (spec.render libc levels mdc event moment cut).bind fun text => (renderAll cut rest).map (text ++ ·)

end Render

structure Event.Cached {Tm : Type} (libc : Libc Tm) (fmts : List Bytes) (event : Event Tm) : Prop where
  caches : ∀ (index : Nat) (cache : TimeCache) (timeFmt : Bytes), event.timeCaches[index]? = some cache →
    fmts[index]? = some timeFmt → cache.sec ≠ 0 →
    cache.str = libc.strftime timeFmt (libc.localtime cache.sec)
  count : event.timeCaches.length = fmts.length
  locals : event.timeLocalSec ≠ 0 → event.timeLocal = libc.localtime event.timeLocalSec
  pids : event.lastPid ≠ 0 → event.pidStr = decimal event.lastPid
  current : event.pid ≠ 0 → event.pid = event.lastPid
  int : event.pid < 2 ^ 31

structure Event.Settled {Tm : Type} (event : Event Tm) (moment : Moment) : Prop where
  time : event.stampSec ≠ 0 → moment.sec = event.stampSec ∧ moment.usec = event.stampUsec
  process : event.pid ≠ 0 → moment.pid = event.pid

structure Event.SameCall {Tm : Type} (event next : Event Tm) : Prop where
  request : next.request = event.request
  hostName : next.hostName = event.hostName
  tidStr : next.tidStr = event.tidStr
  tidHexStr : next.tidHexStr = event.tidHexStr

def Conversion.Indexed (fmts : List Bytes) : Conversion → Prop
  | .time timeFmt index => fmts[index]? = some timeFmt
  | _ => True

-- What gettimeofday and getpid never answer is 0. A pid is an int.
structure SpecAnswers.Real (answers : SpecAnswers) : Prop where
  time : answers.now.1 ≠ 0
  process : answers.pid ≠ 0
  int : answers.pid < 2 ^ 31

section Caches

variable {Tm : Type} (libc : Libc Tm) (fmts : List Bytes) (event : Event Tm) (cached : event.Cached libc fmts)

theorem same_call_refl : event.SameCall event := ⟨rfl, rfl, rfl, rfl⟩

include cached

theorem fetch_time_cached (now : Nat × Nat) : (event.fetchTime now).Cached libc fmts := by
  by_cases unread : event.stampSec = 0
  · rw [Event.fetchTime, if_pos unread]
    exact ⟨cached.caches, cached.count, cached.locals, cached.pids, cached.current, cached.int⟩
  · rw [Event.fetchTime, if_neg unread]
    exact cached

theorem fetch_local_cached : (event.fetchLocal libc).Cached libc fmts := by
  by_cases stale : event.timeLocalSec ≠ event.stampSec
  · rw [Event.fetchLocal, if_pos stale]
    exact ⟨cached.caches, cached.count, fun _ => rfl, cached.pids, cached.current, cached.int⟩
  · rw [Event.fetchLocal, if_neg stale]
    exact cached

theorem fetch_local_time (read : event.stampSec ≠ 0) :
    (event.fetchLocal libc).timeLocal = libc.localtime event.stampSec ∧ (event.fetchLocal libc).stampSec = event.stampSec := by
  by_cases stale : event.timeLocalSec ≠ event.stampSec
  · rw [Event.fetchLocal, if_pos stale]
    exact ⟨rfl, rfl⟩
  · have same : event.timeLocalSec = event.stampSec := not_not.mp stale
    rw [Event.fetchLocal, if_neg stale, ← same]
    exact ⟨cached.locals (same ▸ read), rfl⟩

theorem fetch_cache_text (timeFmt : Bytes) (index : Nat) (next : Event Tm) (text : Bytes) (read : event.stampSec ≠ 0)
    (current : event.timeLocal = libc.localtime event.stampSec) (indexed : fmts[index]? = some timeFmt)
    (fetched : event.fetchCache libc timeFmt index = some (next, text)) :
    text = libc.strftime timeFmt (libc.localtime event.stampSec) ∧ next.Cached libc fmts ∧ next.stampSec = event.stampSec ∧
      next.stampUsec = event.stampUsec ∧ next.pid = event.pid ∧ event.SameCall next := by
  obtain ⟨cache, found, chosen⟩ := Option.bind_eq_some_iff.mp fetched
  by_cases stale : cache.sec ≠ event.stampSec
  · rw [if_pos stale] at chosen
    cases chosen
    refine ⟨by rw [current], ⟨?_, by simpa using cached.count, cached.locals, cached.pids, cached.current, cached.int⟩, rfl, rfl, rfl,
      rfl, rfl, rfl, rfl⟩
    intro other otherCache otherFmt otherFound otherIndexed filled
    by_cases same : index = other
    · subst same
      have inside : index < event.timeCaches.length := (List.getElem?_eq_some_iff.mp found).1
      rw [List.getElem?_set_self inside] at otherFound
      cases otherFound
      rw [indexed] at otherIndexed
      cases otherIndexed
      rw [current]
    · rw [List.getElem?_set_ne same] at otherFound
      exact cached.caches other otherCache otherFmt otherFound otherIndexed filled
  · have fresh : cache.sec = event.stampSec := not_not.mp stale
    rw [if_neg stale] at chosen
    cases chosen
    refine ⟨?_, cached, rfl, rfl, rfl, same_call_refl _⟩
    rw [← fresh]
    exact cached.caches index cache timeFmt found indexed (fresh ▸ read)

theorem fetch_pid_cached (pid : Nat) (real : pid ≠ 0) (int : pid < 2 ^ 31) :
    (event.fetchPid pid).Cached libc fmts ∧ (event.fetchPid pid).pid ≠ 0 ∧
      (event.fetchPid pid).pidStr = decimal (event.fetchPid pid).pid ∧ (event.pid ≠ 0 → (event.fetchPid pid).pid = event.pid) := by
  by_cases unread : event.pid = 0
  · by_cases changed : pid ≠ event.lastPid
    · rw [Event.fetchPid, if_pos unread, if_pos changed]
      exact ⟨⟨cached.caches, cached.count, cached.locals, fun _ => rfl, fun _ => rfl, int⟩, real, rfl, fun wasRead => absurd unread wasRead⟩
    · have same : pid = event.lastPid := not_not.mp changed
      rw [Event.fetchPid, if_pos unread, if_neg changed]
      refine ⟨⟨cached.caches, cached.count, cached.locals, cached.pids, fun _ => same, int⟩, real, ?_, fun wasRead => absurd unread wasRead⟩
      rw [cached.pids (same ▸ real), same]
  · rw [Event.fetchPid, if_neg unread]
    refine ⟨cached, unread, ?_, fun _ => rfl⟩
    have same := cached.current unread
    rw [cached.pids (same ▸ unread), same]

end Caches

-- What one write function leaves: an event whose caches are right, and writes that come to
-- what its conversion stands for, at any moment that agrees with what the event has read.
structure Written {Tm : Type} (libc : Libc Tm) (levels : LevelList) (mdc : Mdc) (fmts : List Bytes) (event next : Event Tm)
    (conversion : Conversion) (ops : List Buf.Op) : Prop where
  cached : next.Cached libc fmts
  same : event.SameCall next
  earlier : ∀ moment, next.Settled moment → event.Settled moment
  text : ∀ moment, next.Settled moment →
    ops = [.vprintf none] ∧ conversion.render libc levels mdc event moment = none ∨
      (∀ op ∈ ops, op ≠ .restart ∧ op ≠ .vprintf none) ∧ conversion.render libc levels mdc event moment = some (ops.flatMap Buf.Op.text)

section Writes

variable {Tm : Type} (libc : Libc Tm) (levels : LevelList) (mdc : Mdc) (fmts : List Bytes) (answers : SpecAnswers) (real : answers.Real)
  (event next : Event Tm) (cached : event.Cached libc fmts)

theorem written_once (conversion : Conversion) (op : Buf.Op) (writes : op ≠ .restart) (formats : op ≠ .vprintf none)
    (cached : next.Cached libc fmts) (same : event.SameCall next) (earlier : ∀ moment, next.Settled moment → event.Settled moment)
    (shows : ∀ moment, next.Settled moment → conversion.render libc levels mdc event moment = some op.text) :
    Written libc levels mdc fmts event next conversion [op] := by
  refine ⟨cached, same, earlier, fun moment settled => .inr ⟨?_, ?_⟩⟩
  · intro other member
    rw [List.mem_singleton.mp member]
    exact ⟨writes, formats⟩
  · rw [shows moment settled, List.flatMap_cons, List.flatMap_nil, List.append_nil]

theorem written_append (conversion : Conversion) (str : Bytes) (cached : event.Cached libc fmts)
    (shows : ∀ moment, conversion.render libc levels mdc event moment = some str) :
    Written libc levels mdc fmts event event conversion [.append str] :=
  written_once libc levels mdc fmts event event conversion (.append str) (by simp) (by simp) cached
    (same_call_refl event) (fun _ settled => settled)
    fun moment _ => shows moment

theorem fetch_time_settled (now : Nat × Nat) (real : now.1 ≠ 0) (moment : Moment) (settled : (event.fetchTime now).Settled moment) :
    event.Settled moment ∧ moment.sec = (event.fetchTime now).stampSec ∧ moment.usec = (event.fetchTime now).stampUsec := by
  by_cases unread : event.stampSec = 0
  · have read : (event.fetchTime now).stampSec ≠ 0 := by
      rw [Event.fetchTime, if_pos unread]
      exact real
    refine ⟨⟨fun wasRead => absurd unread wasRead, ?_⟩, settled.time read⟩
    have process := settled.process
    rw [Event.fetchTime, if_pos unread] at process
    exact process
  · rw [Event.fetchTime, if_neg unread] at settled ⊢
    exact ⟨settled, settled.time unread⟩

theorem fetch_time_same (now : Nat × Nat) : event.SameCall (event.fetchTime now) := by
  rw [Event.fetchTime]
  split
  · exact ⟨rfl, rfl, rfl, rfl⟩
  · exact same_call_refl event

theorem fetch_time_read (now : Nat × Nat) (real : now.1 ≠ 0) : (event.fetchTime now).stampSec ≠ 0 := by
  by_cases unread : event.stampSec = 0
  · rw [Event.fetchTime, if_pos unread]
    exact real
  · rw [Event.fetchTime, if_neg unread]
    exact unread

theorem fetch_local_same :
    event.SameCall (event.fetchLocal libc) ∧ (event.fetchLocal libc).stampSec = event.stampSec ∧
      (event.fetchLocal libc).stampUsec = event.stampUsec ∧ (event.fetchLocal libc).pid = event.pid := by
  rw [Event.fetchLocal]
  split
  · exact ⟨⟨rfl, rfl, rfl, rfl⟩, rfl, rfl, rfl⟩
  · exact ⟨same_call_refl event, rfl, rfl, rfl⟩

theorem settled_congr (moment : Moment) (sec : next.stampSec = event.stampSec) (usec : next.stampUsec = event.stampUsec)
    (pid : next.pid = event.pid) (settled : next.Settled moment) : event.Settled moment := by
  refine ⟨fun read => ?_, fun read => ?_⟩
  · rw [← sec, ← usec]
    exact settled.time (sec ▸ read)
  · rw [← pid]
    exact settled.process (pid ▸ read)

include cached

theorem time_written (timeFmt : Bytes) (index : Nat) (ops : List Buf.Op) (real : answers.Real) (indexed : fmts[index]? = some timeFmt)
    (wrote : (Conversion.time timeFmt index).writes libc levels mdc answers event = some (next, ops)) :
    Written libc levels mdc fmts event next (.time timeFmt index) ops := by
  obtain ⟨⟨last, text⟩, fetched, same⟩ := Option.map_eq_some_iff.mp wrote
  cases same
  have timed := fetch_time_cached libc fmts event cached answers.now
  have read := fetch_time_read event answers.now real.time
  obtain ⟨localTime, localSec⟩ := fetch_local_time libc fmts (event.fetchTime answers.now) timed read
  obtain ⟨localSame, _, localUsec, localPid⟩ := fetch_local_same libc (event.fetchTime answers.now)
  obtain ⟨shown, lastCached, lastSec, lastUsec, lastPid, lastSame⟩ := fetch_cache_text libc fmts _ (fetch_local_cached libc fmts _ timed)
    timeFmt index last text (localSec ▸ read) (by rw [localTime, localSec]) indexed fetched
  have timeSame := fetch_time_same event answers.now
  have back : ∀ moment, last.Settled moment → (event.fetchTime answers.now).Settled moment := fun moment settled =>
    settled_congr (event.fetchTime answers.now) last moment (lastSec.trans localSec) (lastUsec.trans localUsec)
      (lastPid.trans localPid) settled
  refine written_once libc levels mdc fmts event last _ (.append text) (by simp) (by simp) lastCached ?_ ?_ ?_
  · exact ⟨lastSame.request.trans (localSame.request.trans timeSame.request),
      lastSame.hostName.trans (localSame.hostName.trans timeSame.hostName),
      lastSame.tidStr.trans (localSame.tidStr.trans timeSame.tidStr),
      lastSame.tidHexStr.trans (localSame.tidHexStr.trans timeSame.tidHexStr)⟩
  · intro moment settled
    exact (fetch_time_settled event answers.now real.time moment (back moment settled)).1
  · intro moment settled
    obtain ⟨_, sec, _⟩ := fetch_time_settled event answers.now real.time moment (back moment settled)
    rw [Conversion.render, Buf.Op.text, shown, sec, localSec]

theorem clock_written (conversion : Conversion) (op : Buf.Op) (real : answers.Real) (writes : op ≠ .restart) (formats : op ≠ .vprintf none)
    (shows : ∀ moment : Moment, moment.usec = (event.fetchTime answers.now).stampUsec →
      conversion.render libc levels mdc event moment = some op.text) :
    Written libc levels mdc fmts event (event.fetchTime answers.now) conversion [op] := by
  refine written_once libc levels mdc fmts event _ conversion op writes formats (fetch_time_cached libc fmts event cached answers.now)
    (fetch_time_same event answers.now) ?_ ?_
  · intro moment settled
    exact (fetch_time_settled event answers.now real.time moment settled).1
  · intro moment settled
    exact shows moment (fetch_time_settled event answers.now real.time moment settled).2.2

theorem pid_written (real : answers.Real) :
    Written libc levels mdc fmts event (event.fetchPid answers.pid) .pid [.append (event.fetchPid answers.pid).pidStr] := by
  obtain ⟨pidCached, read, shown, kept⟩ := fetch_pid_cached libc fmts event cached answers.pid real.process real.int
  have same : event.SameCall (event.fetchPid answers.pid) ∧ (event.fetchPid answers.pid).stampSec = event.stampSec ∧
      (event.fetchPid answers.pid).stampUsec = event.stampUsec := by
    rw [Event.fetchPid]
    split
    · split
      · exact ⟨⟨rfl, rfl, rfl, rfl⟩, rfl, rfl⟩
      · exact ⟨⟨rfl, rfl, rfl, rfl⟩, rfl, rfl⟩
    · exact ⟨same_call_refl event, rfl, rfl⟩
  refine written_once libc levels mdc fmts event _ .pid _ (by simp) (by simp) pidCached same.1 ?_ ?_
  · intro moment settled
    refine ⟨fun wasRead => ?_, fun wasRead => ?_⟩
    · rw [← same.2.1, ← same.2.2]
      exact settled.time (same.2.1 ▸ wasRead)
    · rw [← kept wasRead]
      exact settled.process read
  · intro moment settled
    rw [Conversion.render, Buf.Op.text, shown, settled.process read]

theorem usrmsg_written (bounded : ∀ hexBuf, event.request.usrmsg = .hex hexBuf → hexBuf.length < 2 ^ 64) :
    Written libc levels mdc fmts event event .usrmsg event.request.usrmsg.ops := by
  refine ⟨cached, same_call_refl event, fun _ settled => settled, fun moment _ => ?_⟩
  rw [Conversion.render]
  cases message : event.request.usrmsg with
  | fmt formatted =>
      cases formatted with
      | none => exact .inl ⟨rfl, rfl⟩
      | some text =>
          refine .inr ⟨?_, ?_⟩
          · intro op member
            rw [List.mem_singleton.mp member]
            simp
          · simp [Usrmsg.render, Usrmsg.ops, Buf.Op.text]
  | noFmt =>
      refine .inr ⟨?_, ?_⟩
      · intro op member
        rw [List.mem_singleton.mp member]
        simp
      · simp [Usrmsg.render, Usrmsg.ops, Buf.Op.text]
  | hex hexBuf =>
      refine .inr ⟨Hex.dump_writes hexBuf, ?_⟩
      rw [Usrmsg.render, Usrmsg.ops, Hex.dump_text hexBuf (bounded hexBuf message)]
  | noHex =>
      refine .inr ⟨?_, ?_⟩
      · intro op member
        rw [List.mem_singleton.mp member]
        simp
      · simp [Usrmsg.render, Usrmsg.ops, Buf.Op.text]

theorem mdc_written (mdcKey : Bytes) (ops : List Buf.Op)
    (wrote : (Conversion.mdc mdcKey).writes libc levels mdc answers event = some (next, ops)) :
    Written libc levels mdc fmts event next (.mdc mdcKey) ops := by
  rw [Conversion.writes] at wrote
  cases found : mdc.getKv mdcKey with
  | none =>
      rw [found] at wrote
      cases wrote
      refine ⟨cached, same_call_refl _, fun _ settled => settled, fun moment _ => .inr ⟨by simp, ?_⟩⟩
      rw [Conversion.render, mdcText, found]
      rfl
  | some kv =>
      rw [found] at wrote
      by_cases short : kv.valueLen ≤ 1025
      · simp only [if_pos short] at wrote
        cases wrote
        apply written_append libc levels mdc fmts _ _ _ cached
        intro moment
        rw [Conversion.render, mdcText, found]
      · simp only [if_neg short] at wrote
        cases wrote

theorem srcfunc_written (ops : List Buf.Op) (wrote : Conversion.srcfunc.writes libc levels mdc answers event = some (next, ops)) :
    Written libc levels mdc fmts event next .srcfunc ops := by
  rw [Conversion.writes] at wrote
  cases file : event.request.file with
  | none =>
      rw [file] at wrote
      cases wrote
      apply written_append libc levels mdc fmts _ _ _ cached
      intro moment
      rw [Conversion.render, file, if_pos rfl]
  | some name =>
      rw [file] at wrote
      obtain ⟨func, found, same⟩ := Option.map_eq_some_iff.mp wrote
      cases same
      apply written_append libc levels mdc fmts _ _ _ cached
      intro moment
      rw [Conversion.render, file, if_neg (by simp), found]
      rfl

theorem writes_written (real : answers.Real) (conversion : Conversion) (ops : List Buf.Op) (indexed : conversion.Indexed fmts)
    (bounded : ∀ hexBuf, event.request.usrmsg = .hex hexBuf → hexBuf.length < 2 ^ 64)
    (wrote : conversion.writes libc levels mdc answers event = some (next, ops)) :
    Written libc levels mdc fmts event next conversion ops := by
  cases conversion with
  | time timeFmt index => exact time_written libc levels mdc fmts answers event next cached timeFmt index ops real indexed wrote
  | mdc mdcKey => exact mdc_written libc levels mdc fmts answers event next cached mdcKey ops wrote
  | ms =>
      cases wrote
      exact clock_written libc levels mdc fmts answers event cached .ms _ real (by simp) (by simp) fun moment usec => by
        rw [Conversion.render, Buf.Op.text, usec]
        rfl
  | us =>
      cases wrote
      exact clock_written libc levels mdc fmts answers event cached .us _ real (by simp) (by simp) fun moment usec => by
        rw [Conversion.render, Buf.Op.text, usec]
        rfl
  | pid =>
      cases wrote
      exact pid_written libc levels mdc fmts answers event cached real
  | usrmsg =>
      cases wrote
      exact usrmsg_written libc levels mdc fmts event cached bounded
  | srcfunc => exact srcfunc_written libc levels mdc fmts answers event next cached ops wrote
  | srcline =>
      cases wrote
      exact written_once libc levels mdc fmts event event .srcline _ (by simp) (by simp) cached (same_call_refl event)
        (fun _ settled => settled)
        fun _ _ => rfl
  | srcfileNeat =>
      obtain ⟨file, found, same⟩ := Option.map_eq_some_iff.mp wrote
      cases same
      apply written_append libc levels mdc fmts _ _ _ cached
      intro moment
      rw [Conversion.render, found]
      rfl
  | levelLowercase =>
      obtain ⟨name, found, same⟩ := Option.map_eq_some_iff.mp wrote
      cases same
      apply written_append libc levels mdc fmts _ _ _ cached
      intro moment
      rw [Conversion.render, found]
      rfl
  | levelUppercase =>
      obtain ⟨name, found, same⟩ := Option.map_eq_some_iff.mp wrote
      cases same
      apply written_append libc levels mdc fmts _ _ _ cached
      intro moment
      rw [Conversion.render, found]
      rfl
  | str text =>
      cases wrote
      exact written_append libc levels mdc fmts event _ _ cached fun _ => rfl
  | category =>
      cases wrote
      exact written_append libc levels mdc fmts event _ _ cached fun _ => rfl
  | srcfile =>
      cases wrote
      exact written_append libc levels mdc fmts event _ _ cached fun _ => rfl
  | hostname =>
      cases wrote
      exact written_append libc levels mdc fmts event _ _ cached fun _ => rfl
  | newline =>
      cases wrote
      exact written_append libc levels mdc fmts event _ _ cached fun _ => rfl
  | tidHex =>
      cases wrote
      exact written_append libc levels mdc fmts event _ _ cached fun _ => rfl
  | tidLong =>
      cases wrote
      exact written_append libc levels mdc fmts event _ _ cached fun _ => rfl
  | percent =>
      cases wrote
      exact written_append libc levels mdc fmts event _ _ cached fun _ => rfl

end Writes

structure Event.Read {Tm : Type} (told : List SpecAnswers) (event next : Event Tm) : Prop where
  time : next.stampSec = event.stampSec ∧ next.stampUsec = event.stampUsec ∨ ∃ answers ∈ told, answers.now = (next.stampSec, next.stampUsec)
  process : next.pid = event.pid ∨ ∃ answers ∈ told, answers.pid = next.pid

section Reads

variable {Tm : Type} (libc : Libc Tm) (levels : LevelList) (mdc : Mdc) (answers : SpecAnswers)

theorem read_nothing (event : Event Tm) (told : List SpecAnswers) : event.Read told event := ⟨.inl ⟨rfl, rfl⟩, .inl rfl⟩

theorem read_time (event : Event Tm) : event.Read [answers] (event.fetchTime answers.now) := by
  rw [Event.fetchTime]
  split
  · exact ⟨.inr ⟨answers, List.mem_singleton_self _, rfl⟩, .inl rfl⟩
  · exact read_nothing event _

theorem read_pid (event : Event Tm) : event.Read [answers] (event.fetchPid answers.pid) := by
  rw [Event.fetchPid]
  split
  · split
    · exact ⟨.inl ⟨rfl, rfl⟩, .inr ⟨answers, List.mem_singleton_self _, rfl⟩⟩
    · exact ⟨.inl ⟨rfl, rfl⟩, .inr ⟨answers, List.mem_singleton_self _, rfl⟩⟩
  · exact read_nothing event _

theorem fetch_cache_stamp (event next : Event Tm) (timeFmt : Bytes) (index : Nat) (text : Bytes)
    (fetched : event.fetchCache libc timeFmt index = some (next, text)) :
    next.stampSec = event.stampSec ∧ next.stampUsec = event.stampUsec ∧ next.pid = event.pid := by
  obtain ⟨cache, _, chosen⟩ := Option.bind_eq_some_iff.mp fetched
  by_cases stale : cache.sec ≠ event.stampSec
  · rw [if_pos stale] at chosen
    cases chosen
    exact ⟨rfl, rfl, rfl⟩
  · rw [if_neg stale] at chosen
    cases chosen
    exact ⟨rfl, rfl, rfl⟩

theorem writes_read (event next : Event Tm) (conversion : Conversion) (ops : List Buf.Op)
    (wrote : conversion.writes libc levels mdc answers event = some (next, ops)) : event.Read [answers] next := by
  cases conversion with
  | time timeFmt index =>
      obtain ⟨⟨last, text⟩, fetched, same⟩ := Option.map_eq_some_iff.mp wrote
      cases same
      obtain ⟨sec, usec, pid⟩ := fetch_cache_stamp libc _ last timeFmt index text fetched
      obtain ⟨_, localSec, localUsec, localPid⟩ := fetch_local_same libc (event.fetchTime answers.now)
      have read := read_time answers event
      refine ⟨?_, ?_⟩
      · rw [sec, usec, localSec, localUsec]
        exact read.time
      · rw [pid, localPid]
        exact read.process
  | mdc mdcKey =>
      rw [Conversion.writes] at wrote
      split at wrote
      · cases wrote
        exact read_nothing _ _
      · split at wrote
        · cases wrote
          exact read_nothing _ _
        · cases wrote
  | srcfileNeat =>
      obtain ⟨_, _, same⟩ := Option.map_eq_some_iff.mp wrote
      cases same
      exact read_nothing _ _
  | srcfunc =>
      rw [Conversion.writes] at wrote
      split at wrote
      · cases wrote
        exact read_nothing _ _
      · obtain ⟨_, _, same⟩ := Option.map_eq_some_iff.mp wrote
        cases same
        exact read_nothing _ _
  | levelLowercase =>
      obtain ⟨_, _, same⟩ := Option.map_eq_some_iff.mp wrote
      cases same
      exact read_nothing _ _
  | levelUppercase =>
      obtain ⟨_, _, same⟩ := Option.map_eq_some_iff.mp wrote
      cases same
      exact read_nothing _ _
  | ms =>
      cases wrote
      exact read_time answers event
  | us =>
      cases wrote
      exact read_time answers event
  | pid =>
      cases wrote
      exact read_pid answers event
  | _ =>
      cases wrote
      exact read_nothing _ _

theorem read_trans (first second third : Event Tm) (early late : List SpecAnswers) (before : first.Read early second)
    (after : second.Read late third) :
    first.Read (early ++ late) third := by
  constructor
  · cases after.time with
    | inl kept =>
        rw [kept.1, kept.2]
        exact before.time.imp_right fun told => told.imp fun _ found => ⟨List.mem_append_left _ found.1, found.2⟩
    | inr told =>
        obtain ⟨answers, member, same⟩ := told
        exact .inr ⟨answers, List.mem_append_right _ member, same⟩
  · cases after.process with
    | inl kept =>
        rw [kept]
        exact before.process.imp_right fun told => told.imp fun _ found => ⟨List.mem_append_left _ found.1, found.2⟩
    | inr told =>
        obtain ⟨answers, member, same⟩ := told
        exact .inr ⟨answers, List.mem_append_right _ member, same⟩

theorem gen_read (event next : Event Tm) (spec : Spec) (pad after : Pad) (rc : Rc)
    (generated : spec.gen libc levels mdc answers event pad = some (next, after, rc)) : event.Read [answers] next := by
  obtain ⟨⟨middle, ops⟩, wrote, rest⟩ := Option.bind_eq_some_iff.mp generated
  have read := writes_read libc levels mdc answers event middle spec.conversion ops wrote
  have same : next = middle := by
    cases adjusts : spec.adjust with
    | none =>
        simp only [adjusts] at rest
        obtain ⟨_, _, done⟩ := Option.bind_eq_some_iff.mp rest
        cases done
        rfl
    | some adjust =>
        simp only [adjusts] at rest
        obtain ⟨_, _, chosen⟩ := Option.bind_eq_some_iff.mp rest
        split at chosen
        · cases chosen
          rfl
        · obtain ⟨_, _, done⟩ := Option.bind_eq_some_iff.mp chosen
          cases done
          rfl
  rw [same]
  exact read

theorem gen_all_read (items : List (Spec × SpecAnswers)) (event next : Event Tm) (pad after : Pad) (ok : Bool)
    (generated : genAll libc levels mdc items event pad = some (next, after, ok)) : event.Read (items.map Prod.snd) next := by
  induction items generalizing event pad with
  | nil =>
      cases generated
      exact read_nothing _ _
  | cons item rest ih =>
      obtain ⟨spec, answers⟩ := item
      obtain ⟨⟨middle, between, rc⟩, first, chosen⟩ := Option.bind_eq_some_iff.mp generated
      have here := gen_read libc levels mdc answers event middle spec pad between rc first
      by_cases went : rc = .success
      · simp only [if_pos went] at chosen
        exact read_trans event middle next [answers] _ here (ih middle between chosen)
      · simp only [if_neg went] at chosen
        cases chosen
        exact read_trans event _ _ [answers] _ here (read_nothing _ _)

end Reads

end Zlog
