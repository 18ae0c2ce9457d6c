import RamsesProxy.Lib.Channel
import RamsesProxy.Lib.Sequences
import RamsesProxy.RouterSession

set_option autoImplicit false

namespace Rart

open Channel (Link)

namespace SessionOp

variable {Addr : Type}

def isResolve : SessionOp Addr → Bool
  | .resolve => true
  | .connect _ _ | .write _ | .readHeader | .readPayload _ | .close => false

def isChain : SessionOp Addr → Bool
  | .resolve | .connect _ _ => true
  | .write _ | .readHeader | .readPayload _ | .close => false

def writePacket : SessionOp Addr → Option RouterPacket
  | .write packet => some packet
  | .resolve | .connect _ _ | .readHeader | .readPayload _ | .close => none

end SessionOp

section Views

variable {Addr : Type}

def chainOf (ops : List (SessionOp Addr)) : List (SessionOp Addr) := ops.filter SessionOp.isChain

def writesOf (ops : List (SessionOp Addr)) : List RouterPacket := ops.filterMap SessionOp.writePacket

def startsOf (ops : List (SessionOp Addr)) : Nat := ops.countP SessionOp.isResolve

@[simp] theorem chain_of_append (left right : List (SessionOp Addr)) :
    chainOf (left ++ right) = chainOf left ++ chainOf right := List.filter_append ..

@[simp] theorem chain_of_cons (op : SessionOp Addr) (rest : List (SessionOp Addr)) :
    chainOf (op :: rest) = if op.isChain then op :: chainOf rest else chainOf rest := List.filter_cons

@[simp] theorem chain_of_nil : chainOf ([] : List (SessionOp Addr)) = [] := rfl

@[simp] theorem writes_of_append (left right : List (SessionOp Addr)) :
    writesOf (left ++ right) = writesOf left ++ writesOf right := List.filterMap_append

@[simp] theorem writes_of_cons (op : SessionOp Addr) (rest : List (SessionOp Addr)) :
    writesOf (op :: rest) = op.writePacket.toList ++ writesOf rest := by
  cases written : op.writePacket with
  | none => exact List.filterMap_cons_none written
  | some packet => exact List.filterMap_cons_some written

@[simp] theorem writes_of_nil : writesOf ([] : List (SessionOp Addr)) = [] := rfl

@[simp] theorem starts_of_append (left right : List (SessionOp Addr)) :
    startsOf (left ++ right) = startsOf left + startsOf right := List.countP_append

@[simp] theorem starts_of_nil : startsOf ([] : List (SessionOp Addr)) = 0 := rfl

@[simp] theorem starts_of_cons (op : SessionOp Addr) (rest : List (SessionOp Addr)) :
    startsOf (op :: rest) = startsOf rest + if op.isResolve then 1 else 0 := List.countP_cons

end Views

-- One session with the history of its own run: what it was given, what it has
-- written, and whether a write or the whole chain of endpoints has failed.
structure SessionRun (Addr : Type) where
  session : RouterSession Addr
  accepted : List RouterPacket
  written : List RouterPacket
  writeFailed : Bool
  gaveUp : Bool

inductive SessionEvent (Addr : Type) where
  | addRouterPacket (raw : CharArray payloadCapacity) (packet : RouterPacket)
  | complete (index : Nat) (completion : Completion Addr)

namespace SessionRun

variable {Addr : Type}

def create (tuple : AdrTuple Addr) : SessionRun Addr := ⟨.create tuple, [], [], false, false⟩

def delivered : SessionOp Addr → Completion Addr → List RouterPacket
  | .write packet, .written false => [packet]
  | _, _ => []

def failsWrite : SessionOp Addr → Completion Addr → Bool
  | .write _, .written true => true
  | _, _ => false

def givesUp : SessionOp Addr → Completion Addr → Bool
  | .resolve, .resolved (.failed []) => true
  | .connect _ [], .connected true => true
  | _, _ => false

def record (run : SessionRun Addr) (op : SessionOp Addr) (completion : Completion Addr) (session : RouterSession Addr) :
    SessionRun Addr where
  session := session
  accepted := run.accepted
  written := run.written ++ delivered op completion
  writeFailed := run.writeFailed || failsWrite op completion
  gaveUp := run.gaveUp || givesUp op completion

def step (run : SessionRun Addr) : SessionEvent Addr → Option (SessionRun Addr)
  | .addRouterPacket raw packet =>
      some { run with session := run.session.addRouterPacket raw packet, accepted := run.accepted ++ [packet] }
  | .complete index completion =>
      match run.session.pending[index]?, run.session.complete index completion with
      | some op, some (session, _) => some (run.record op completion session)
      | _, _ => none

theorem record_plain (run : SessionRun Addr) (op : SessionOp Addr) (completion : Completion Addr)
    (session : RouterSession Addr) (noWrite : delivered op completion = []) (noFailure : failsWrite op completion = false)
    (noEnd : givesUp op completion = false) : run.record op completion session = { run with session := session } := by
  simp [record, noWrite, noFailure, noEnd]

theorem record_gave_up (run : SessionRun Addr) (op : SessionOp Addr) (completion : Completion Addr)
    (session : RouterSession Addr) (noWrite : delivered op completion = []) (noFailure : failsWrite op completion = false)
    (ended : givesUp op completion = true) :
    run.record op completion session = { run with session := session, gaveUp := true } := by
  simp [record, noWrite, noFailure, ended]

theorem chain_writes_nothing (op : SessionOp Addr) (completion : Completion Addr) (chained : op.isChain = true) :
    delivered op completion = [] ∧ failsWrite op completion = false := by
  cases op with
  | resolve | connect _ _ => exact ⟨rfl, rfl⟩
  | write _ | readHeader | readPayload _ | close => cases chained

theorem step_complete (run next : SessionRun Addr) (index : Nat) (completion : Completion Addr)
    (stepped : run.step (.complete index completion) = some next) :
    ∃ op session packet, run.session.pending[index]? = some op ∧
      (run.session.finishOp index).handle op completion = some (session, packet) ∧
      next = run.record op completion session := by
  simp only [step] at stepped
  split at stepped
  · rename_i op session packet found completed
    have handled := RouterSession.complete_found _ _ _ _ _ _ found completed
    exact ⟨op, session, packet, found, handled, (Option.some.inj stepped).symm⟩
  · cases stepped

end SessionRun

structure Quiet {Addr : Type} (before after : RouterSession Addr) : Prop where
  tuple : after.udpTuple = before.udpTuple
  queue : after.udpPacketQueue = before.udpPacketQueue
  socket : after.socketOpen = before.socketOpen
  established : after.established = before.established
  chain : chainOf after.pending = chainOf before.pending
  writes : writesOf after.pending = writesOf before.pending
  resolves : startsOf after.started = startsOf before.started
  startedWrites : writesOf after.started = writesOf before.started

section Quiet

variable {Addr : Type}

theorem quiet_refl (session : RouterSession Addr) : Quiet session session :=
  ⟨rfl, rfl, rfl, rfl, rfl, rfl, rfl, rfl⟩

theorem quiet_trans (first second third : RouterSession Addr) (left : Quiet first second) (right : Quiet second third) :
    Quiet first third :=
  ⟨right.tuple.trans left.tuple, right.queue.trans left.queue, right.socket.trans left.socket,
    right.established.trans left.established, right.chain.trans left.chain, right.writes.trans left.writes,
    right.resolves.trans left.resolves, right.startedWrites.trans left.startedWrites⟩

theorem chain_resolve (op : SessionOp Addr) (other : op.isChain = false) : op.isResolve = false := by
  cases op <;> first | rfl | cases other

theorem quiet_start_op (session : RouterSession Addr) (op : SessionOp Addr) (noChain : op.isChain = false)
    (noWrite : op.writePacket = none) : Quiet session (session.startOp op) := by
  have noResolve := chain_resolve op noChain
  refine ⟨rfl, rfl, rfl, rfl, ?_, ?_, ?_, ?_⟩
  · simp [noChain]
  · simp [noWrite]
  · simp [noResolve]
  · simp [noWrite]

theorem quiet_finish_op (session : RouterSession Addr) (index : Nat) (op : SessionOp Addr)
    (found : session.pending[index]? = some op) (noChain : op.isChain = false) (noWrite : op.writePacket = none) :
    Quiet session (session.finishOp index) := by
  obtain ⟨left, right, whole, rest⟩ := Sequences.erase_split session.pending index op found
  refine ⟨rfl, rfl, rfl, rfl, ?_, ?_, rfl, rfl⟩
  · rw [RouterSession.finish_op_pending, rest, whole]
    simp [noChain]
  · rw [RouterSession.finish_op_pending, rest, whole]
    simp [noWrite]

theorem quiet_close (session : RouterSession Addr) : Quiet session session.closeSession :=
  quiet_start_op session .close rfl rfl

theorem quiet_packet (session : RouterSession Addr) (packet : RouterPacket) :
    Quiet session { session with fromTcpPacket := packet } :=
  ⟨rfl, rfl, rfl, rfl, rfl, rfl, rfl, rfl⟩

theorem quiet_read_header (session : RouterSession Addr) (error : Bool) (bytesLength : Nat) :
    Quiet session (session.handleReadHeader error bytesLength) := by
  unfold RouterSession.handleReadHeader
  split
  · exact quiet_close session
  · split
    · dsimp only
      split
      · exact quiet_trans _ _ _ (quiet_packet session _) (quiet_start_op _ _ rfl rfl)
      · exact quiet_trans _ _ _ (quiet_packet session _) (quiet_close _)
    · exact quiet_close session

theorem quiet_read_payload (session : RouterSession Addr) (error : Bool) (bytesLength : Nat) :
    Quiet session (session.handleReadPayload error bytesLength).1 := by
  have checked : Quiet session (if bytesLength = 0 then session.closeSession else session) := by
    split
    · exact quiet_close session
    · exact quiet_refl session
  refine quiet_trans _ _ _ checked ?_
  simp only [RouterSession.handleReadPayload]
  generalize (if bytesLength = 0 then session.closeSession else session) = current
  by_cases failed : error = false
  · rw [if_pos failed]
    by_cases empty : bytesLength = 0
    · rw [if_pos empty]
      exact quiet_packet current _
    · rw [if_neg empty]
      split
      · exact quiet_trans _ _ _ (quiet_packet current _) (quiet_start_op _ _ rfl rfl)
      · exact quiet_packet current _
  · rw [if_neg failed]
    exact quiet_close current

end Quiet

abbrev Contents := UInt32 × UInt32 × Bytes

-- A session and the channel it implements. The front of the queue is the packet on
-- its way exactly while the link is up; the source keeps no flag for that.
structure Refines {Addr : Type} (run : SessionRun Addr) (channel : Channel Contents) : Prop where
  accepted : run.accepted.map RouterPacket.contents = channel.accepted
  written : run.written.map RouterPacket.contents = channel.delivered
  queue : run.session.udpPacketQueue.map RouterPacket.contents = channel.waiting
  chain : (chainOf run.session.pending).length = if channel.link = .opening then 1 else 0
  starts : startsOf run.session.started = if channel.link = .idle then 0 else 1
  writes : writesOf run.session.pending = if channel.link = .up then run.session.udpPacketQueue.head?.toList else []
  connecting : ∀ op ∈ chainOf run.session.pending, op.isResolve = false → run.session.socketOpen = true
  idleSocket : channel.link = .idle → run.session.socketOpen = false
  upSocket : channel.link = .up → run.session.socketOpen = true
  established : run.session.established = true ↔ channel.link = .up ∨ run.writeFailed = true
  down : channel.link = .down ↔ run.writeFailed = true ∨ run.gaveUp = true

def ChannelStep (channel next : Channel Contents) : Prop :=
  next = channel ∨ ∃ event, Channel.step channel event = some next

section Refines

variable {Addr : Type}

theorem refines_create (tuple : AdrTuple Addr) : Refines (SessionRun.create tuple) Channel.start := by
  constructor <;> simp [SessionRun.create, RouterSession.create, Channel.start, writesOf]

theorem refines_quiet (run : SessionRun Addr) (session : RouterSession Addr) (channel : Channel Contents)
    (refines : Refines run channel) (quiet : Quiet run.session session) :
    Refines { run with session := session } channel where
  accepted := refines.accepted
  written := refines.written
  queue := by rw [quiet.queue]; exact refines.queue
  chain := by rw [quiet.chain]; exact refines.chain
  starts := by rw [quiet.resolves]; exact refines.starts
  writes := by rw [quiet.writes, quiet.queue]; exact refines.writes
  connecting := by rw [quiet.chain, quiet.socket]; exact refines.connecting
  idleSocket := by rw [quiet.socket]; exact refines.idleSocket
  upSocket := by rw [quiet.socket]; exact refines.upSocket
  established := by rw [quiet.established]; exact refines.established
  down := refines.down

theorem empty_queue_link (run : SessionRun Addr) (channel : Channel Contents) (refines : Refines run channel)
    (sound : channel.Sound) (empty : run.session.udpPacketQueue = []) : channel.link = .idle ∨ channel.link = .up := by
  have waiting : channel.waiting = [] := by rw [← refines.queue, empty]; rfl
  cases link : channel.link with
  | idle => exact .inl rfl
  | opening => exact absurd waiting (sound.wanted (.inl link))
  | up => exact .inr rfl
  | down => exact absurd waiting (sound.wanted (.inr link))

theorem busy_queue_link (run : SessionRun Addr) (channel : Channel Contents) (refines : Refines run channel)
    (sound : channel.Sound) (busy : run.session.udpPacketQueue ≠ []) : channel.link ≠ .idle := by
  intro idle
  have waiting := sound.quiet idle
  rw [← refines.queue, List.map_eq_nil_iff] at waiting
  exact busy waiting

theorem refines_add (run : SessionRun Addr) (channel : Channel Contents) (refines : Refines run channel)
    (sound : channel.Sound) (raw : CharArray payloadCapacity) (packet : RouterPacket) :
    ∃ next, Channel.step channel (.accept packet.contents) = some next ∧
      Refines { run with session := run.session.addRouterPacket raw packet, accepted := run.accepted ++ [packet] } next := by
  refine ⟨_, rfl, ?_⟩
  have copied : (RouterPacket.copyConstruct raw packet).contents = packet.contents := RouterPacket.copy_contents _ _
  have accepted := refines.accepted
  have waiting := refines.queue
  have chain := refines.chain
  have starts := refines.starts
  have writes := refines.writes
  have connecting := refines.connecting
  have established := refines.established
  have down := refines.down
  cases queue : run.session.udpPacketQueue with
  | nil =>
      rcases empty_queue_link run channel refines sound queue with idle | up
      · have closed := refines.idleSocket idle
        have added : run.session.addRouterPacket raw packet =
            { run.session with udpPacketQueue := [.copyConstruct raw packet] }.startOp .resolve := by
          simp [RouterSession.addRouterPacket, RouterSession.deliverToTcpPeer, RouterSession.start, queue, closed]
        simp only [idle, if_true, reduceCtorEq, if_false, false_or, false_iff,
          List.length_eq_zero_iff] at chain starts writes established down
        rw [added]
        constructor <;> simp [accepted, refines.written, ← waiting, queue, copied, idle, chain, starts, writes, established,
          SessionOp.isChain, SessionOp.isResolve, SessionOp.writePacket]
        simpa using down
      · have isOpen := refines.upSocket up
        have added : run.session.addRouterPacket raw packet =
            { run.session with udpPacketQueue := [.copyConstruct raw packet] }.startOp
              (.write (.copyConstruct raw packet)) := by
          simp [RouterSession.addRouterPacket, RouterSession.deliverToTcpPeer, queue, isOpen]
        rw [added]
        simp only [up, if_true, reduceCtorEq, if_false, List.length_eq_zero_iff, queue, false_iff] at chain starts writes down
        constructor <;> simp [accepted, refines.written, ← waiting, queue, copied, up, chain, starts, writes, isOpen, established,
          SessionOp.isChain, SessionOp.isResolve, SessionOp.writePacket]
        simpa using down
  | cons front rest =>
      have busy : channel.link ≠ .idle := busy_queue_link run channel refines sound (by simp [queue])
      have added : run.session.addRouterPacket raw packet =
          { run.session with udpPacketQueue := front :: rest ++ [.copyConstruct raw packet] } := by
        simp [RouterSession.addRouterPacket, queue]
      rw [if_neg busy] at starts
      simp only [queue] at writes
      rw [added]
      constructor <;> simp [accepted, refines.written, ← waiting, queue, copied, busy, chain, starts, writes, down, established]
      · exact connecting
      · exact refines.upSocket

-- A pending operation of the chain can only be there while the link is opening, and
-- taking it out leaves no other.
theorem chain_pending (run : SessionRun Addr) (channel : Channel Contents) (refines : Refines run channel) (index : Nat)
    (op : SessionOp Addr) (found : run.session.pending[index]? = some op) (chained : op.isChain = true) :
    channel.link = .opening ∧ chainOf (run.session.finishOp index).pending = [] ∧
      writesOf (run.session.finishOp index).pending = writesOf run.session.pending := by
  obtain ⟨left, right, whole, rest⟩ := Sequences.erase_split run.session.pending index op found
  have unwritten : op.writePacket = none := by cases op <;> first | rfl | cases chained
  have chain := refines.chain
  rw [whole] at chain
  simp only [chain_of_append, chain_of_cons, chained, if_true, List.length_append, List.length_cons] at chain
  have opening : channel.link = .opening := by
    by_contra other
    rw [if_neg other] at chain
    omega
  rw [if_pos opening] at chain
  have leftEmpty : chainOf left = [] := List.eq_nil_of_length_eq_zero (by omega)
  have rightEmpty : chainOf right = [] := List.eq_nil_of_length_eq_zero (by omega)
  refine ⟨opening, ?_, ?_⟩
  · rw [RouterSession.finish_op_pending, rest, chain_of_append, leftEmpty, rightEmpty, List.append_nil]
  · rw [RouterSession.finish_op_pending, rest, whole]
    simp [unwritten]

theorem write_pending (run : SessionRun Addr) (channel : Channel Contents) (refines : Refines run channel) (index : Nat)
    (packet : RouterPacket) (found : run.session.pending[index]? = some (.write packet)) :
    channel.link = .up ∧ writesOf (run.session.finishOp index).pending = [] ∧
      chainOf (run.session.finishOp index).pending = chainOf run.session.pending ∧
      ∃ rest, run.session.udpPacketQueue = packet :: rest := by
  obtain ⟨left, right, whole, rest⟩ := Sequences.erase_split run.session.pending index (.write packet) found
  have writes := refines.writes
  rw [whole] at writes
  simp only [writes_of_append, writes_of_cons, SessionOp.writePacket, Option.toList_some, List.singleton_append] at writes
  have up : channel.link = .up := by
    by_contra other
    rw [if_neg other] at writes
    simp at writes
  rw [if_pos up] at writes
  cases queue : run.session.udpPacketQueue with
  | nil => simp [queue] at writes
  | cons front tail =>
      rw [queue, List.head?_cons, Option.toList_some, List.append_eq_singleton_iff] at writes
      obtain ⟨leftEmpty, same⟩ : writesOf left = [] ∧ packet :: writesOf right = [front] := by
        rcases writes with both | ⟨_, impossible⟩
        · exact both
        · cases impossible
      obtain ⟨rfl, rightEmpty⟩ := List.cons.inj same
      refine ⟨up, ?_, ?_, tail, rfl⟩
      · rw [RouterSession.finish_op_pending, rest, writes_of_append, leftEmpty, rightEmpty, List.append_nil]
      · rw [RouterSession.finish_op_pending, rest, whole]
        simp [SessionOp.isChain]

theorem refines_reconnect (run : SessionRun Addr) (channel : Channel Contents) (refines : Refines run channel)
    (index : Nat) (opening : channel.link = .opening) (unchained : chainOf (run.session.finishOp index).pending = [])
    (sameWrites : writesOf (run.session.finishOp index).pending = writesOf run.session.pending)
    (endpoint : Endpoint Addr) (next : List (Endpoint Addr)) :
    Refines { run with session := (run.session.finishOp index).asyncConnect endpoint next } channel := by
  have starts := refines.starts
  have writes := sameWrites.trans refines.writes
  have down := refines.down
  simp only [opening, reduceCtorEq, if_false, false_iff] at starts writes down
  simp only [RouterSession.finish_op_pending] at unchained writes
  constructor <;> simp [refines.accepted, refines.written, refines.queue, refines.established, opening,
    RouterSession.asyncConnect, unchained, starts, writes, SessionOp.isChain, SessionOp.isResolve, SessionOp.writePacket]
  simpa using down

theorem refines_give_up (run : SessionRun Addr) (channel : Channel Contents) (refines : Refines run channel)
    (index : Nat) (opening : channel.link = .opening) (unchained : chainOf (run.session.finishOp index).pending = [])
    (sameWrites : writesOf (run.session.finishOp index).pending = writesOf run.session.pending) :
    Refines { run with session := (run.session.finishOp index).closeSession, gaveUp := true }
      { channel with link := .down } := by
  have starts := refines.starts
  have writes := sameWrites.trans refines.writes
  have established := refines.established
  simp only [opening, reduceCtorEq, if_false, false_or] at starts writes established
  simp only [RouterSession.finish_op_pending] at unchained writes
  constructor <;> simp [refines.accepted, refines.written, refines.queue, established,
    RouterSession.closeSession, unchained, starts, writes, SessionOp.isChain, SessionOp.isResolve, SessionOp.writePacket]

theorem refines_connected (run : SessionRun Addr) (channel : Channel Contents) (refines : Refines run channel)
    (sound : channel.Sound) (index : Nat) (opening : channel.link = .opening)
    (isOpen : run.session.socketOpen = true) (unchained : chainOf (run.session.finishOp index).pending = [])
    (sameWrites : writesOf (run.session.finishOp index).pending = writesOf run.session.pending)
    (iterator : List (Endpoint Addr)) :
    Refines { run with session := (run.session.finishOp index).handleConnection false iterator }
      { channel with link := .up } := by
  have starts := refines.starts
  have writes := sameWrites.trans refines.writes
  have down := refines.down
  simp only [opening, reduceCtorEq, if_false, false_iff] at starts writes down
  simp only [RouterSession.finish_op_pending] at unchained writes
  have waiting : run.session.udpPacketQueue ≠ [] := by
    intro empty
    exact sound.wanted (.inl opening) (by rw [← refines.queue, empty]; rfl)
  cases queue : run.session.udpPacketQueue with
  | nil => exact absurd queue waiting
  | cons front rest =>
      have connected : (run.session.finishOp index).handleConnection false iterator =
          ({ run.session.finishOp index with established := true }.startOp (.write front)).startOp .readHeader := by
        simp [RouterSession.handleConnection, RouterSession.deliverToTcpPeer, RouterSession.startReadFromTcp, isOpen, queue]
      rw [connected]
      constructor <;> simp [refines.accepted, refines.written, ← refines.queue, queue, unchained, starts, writes, isOpen,
        SessionOp.isChain, SessionOp.isResolve, SessionOp.writePacket]
      simpa using down

theorem refines_written (run : SessionRun Addr) (channel : Channel Contents) (refines : Refines run channel)
    (index : Nat) (packet : RouterPacket) (found : run.session.pending[index]? = some (.write packet)) :
    ∃ next, Channel.step channel .deliver = some next ∧
      Refines { run with session := (run.session.finishOp index).handleDeliverTcp false, written := run.written ++ [packet] }
        next := by
  obtain ⟨up, unwritten, sameChain, rest, queue⟩ := write_pending run channel refines index packet found
  have waiting := refines.queue
  rw [queue, List.map_cons] at waiting
  have isOpen := refines.upSocket up
  have starts := refines.starts
  have chain := refines.chain
  have down := refines.down
  rw [← sameChain] at chain
  simp only [up, reduceCtorEq, if_false, false_iff, List.length_eq_zero_iff] at starts down chain
  refine ⟨_, by simp only [Channel.step, up, ← waiting]; rfl, ?_⟩
  simp only [RouterSession.finish_op_pending] at unwritten chain
  cases rest with
  | nil =>
      have popped : (run.session.finishOp index).handleDeliverTcp false =
          { run.session.finishOp index with udpPacketQueue := [] } := by
        simp [RouterSession.handleDeliverTcp, queue]
      rw [popped]
      constructor <;> simp [refines.accepted, refines.written, up, unwritten, chain, starts, isOpen, refines.established]
      simpa using down
  | cons front others =>
      have popped : (run.session.finishOp index).handleDeliverTcp false =
          { run.session.finishOp index with udpPacketQueue := front :: others }.startOp (.write front) := by
        simp [RouterSession.handleDeliverTcp, RouterSession.deliverToTcpPeer, queue, isOpen]
      rw [popped]
      constructor <;> simp [refines.accepted, refines.written, up, unwritten, chain, starts, isOpen, refines.established,
        SessionOp.isChain, SessionOp.isResolve, SessionOp.writePacket]
      simpa using down

theorem refines_write_failed (run : SessionRun Addr) (channel : Channel Contents) (refines : Refines run channel)
    (index : Nat) (packet : RouterPacket) (found : run.session.pending[index]? = some (.write packet)) :
    ∃ next, Channel.step channel .fail = some next ∧
      Refines { run with session := (run.session.finishOp index).handleDeliverTcp true, writeFailed := true } next := by
  obtain ⟨up, unwritten, sameChain, rest, queue⟩ := write_pending run channel refines index packet found
  have waiting := refines.queue
  rw [queue, List.map_cons] at waiting
  have starts := refines.starts
  have chain := refines.chain
  have established := refines.established
  rw [← sameChain] at chain
  simp only [up, reduceCtorEq, if_false, true_or, iff_true, List.length_eq_zero_iff] at starts chain established
  refine ⟨_, by simp only [Channel.step, up, ← waiting]; rfl, ?_⟩
  simp only [RouterSession.finish_op_pending] at unwritten chain
  have closed : (run.session.finishOp index).handleDeliverTcp true = (run.session.finishOp index).startOp .close := rfl
  rw [closed]
  constructor <;> simp [refines.accepted, refines.written, queue, unwritten, chain, starts, established,
    SessionOp.isChain, SessionOp.isResolve, SessionOp.writePacket]

theorem reconnect_refines (run : SessionRun Addr) (channel : Channel Contents) (refines : Refines run channel)
    (index : Nat) (op : SessionOp Addr) (completion : Completion Addr) (found : run.session.pending[index]? = some op)
    (chained : op.isChain = true) (goesOn : SessionRun.givesUp op completion = false)
    (endpoint : Endpoint Addr) (next : List (Endpoint Addr)) :
    ∃ after, ChannelStep channel after ∧
      Refines (run.record op completion ((run.session.finishOp index).asyncConnect endpoint next)) after := by
  obtain ⟨opening, unchained, sameWrites⟩ := chain_pending run channel refines index op found chained
  obtain ⟨noWrite, noFailure⟩ := SessionRun.chain_writes_nothing op completion chained
  refine ⟨channel, .inl rfl, ?_⟩
  rw [SessionRun.record_plain _ _ _ _ noWrite noFailure goesOn]
  exact refines_reconnect run channel refines index opening unchained sameWrites endpoint next

theorem give_up_refines (run : SessionRun Addr) (channel : Channel Contents) (refines : Refines run channel)
    (index : Nat) (op : SessionOp Addr) (completion : Completion Addr) (found : run.session.pending[index]? = some op)
    (chained : op.isChain = true) (ended : SessionRun.givesUp op completion = true) :
    ∃ after, ChannelStep channel after ∧
      Refines (run.record op completion (run.session.finishOp index).closeSession) after := by
  obtain ⟨opening, unchained, sameWrites⟩ := chain_pending run channel refines index op found chained
  obtain ⟨noWrite, noFailure⟩ := SessionRun.chain_writes_nothing op completion chained
  refine ⟨{ channel with link := .down }, .inr ⟨.refused, by simp [Channel.step, opening]⟩, ?_⟩
  rw [SessionRun.record_gave_up _ _ _ _ noWrite noFailure ended]
  exact refines_give_up run channel refines index opening unchained sameWrites

theorem resolve_refines (run : SessionRun Addr) (channel : Channel Contents) (refines : Refines run channel)
    (index : Nat) (found : run.session.pending[index]? = some .resolve) (result : ResolveResult Addr) :
    ∃ after, ChannelStep channel after ∧
      Refines (run.record .resolve (.resolved result) ((run.session.finishOp index).handleResolve result)) after := by
  rcases result with ⟨endpoint, next⟩ | iterator
  · exact reconnect_refines run channel refines index .resolve _ found rfl rfl endpoint next
  · cases iterator with
    | cons endpoint next => exact reconnect_refines run channel refines index .resolve _ found rfl rfl endpoint next
    | nil => exact give_up_refines run channel refines index .resolve _ found rfl rfl

theorem connect_refines (run : SessionRun Addr) (channel : Channel Contents) (refines : Refines run channel)
    (sound : channel.Sound) (index : Nat) (target : Endpoint Addr) (iterator : List (Endpoint Addr)) (error : Bool)
    (found : run.session.pending[index]? = some (.connect target iterator)) :
    ∃ after, ChannelStep channel after ∧
      Refines (run.record (.connect target iterator) (.connected error)
        ((run.session.finishOp index).handleConnection error iterator)) after := by
  cases error with
  | false =>
      obtain ⟨opening, unchained, sameWrites⟩ := chain_pending run channel refines index (.connect target iterator) found rfl
      have chained : .connect target iterator ∈ chainOf run.session.pending :=
        List.mem_filter.mpr ⟨List.mem_of_getElem? found, rfl⟩
      have isOpen := refines.connecting _ chained rfl
      refine ⟨{ channel with link := .up }, .inr ⟨.opened, by simp [Channel.step, opening]⟩, ?_⟩
      rw [SessionRun.record_plain _ _ _ _ rfl rfl (by cases iterator <;> rfl)]
      exact refines_connected run channel refines sound index opening isOpen unchained sameWrites iterator
  | true =>
      cases iterator with
      | cons endpoint next => exact reconnect_refines run channel refines index _ _ found rfl rfl endpoint next
      | nil => exact give_up_refines run channel refines index _ _ found rfl rfl

theorem write_refines (run : SessionRun Addr) (channel : Channel Contents) (refines : Refines run channel)
    (index : Nat) (packet : RouterPacket) (error : Bool)
    (found : run.session.pending[index]? = some (.write packet)) :
    ∃ after, ChannelStep channel after ∧
      Refines (run.record (.write packet) (.written error) ((run.session.finishOp index).handleDeliverTcp error)) after := by
  cases error with
  | false =>
      obtain ⟨after, stepped, refined⟩ := refines_written run channel refines index packet found
      refine ⟨after, .inr ⟨.deliver, stepped⟩, ?_⟩
      simpa [SessionRun.record, SessionRun.delivered, SessionRun.failsWrite, SessionRun.givesUp] using refined
  | true =>
      obtain ⟨after, stepped, refined⟩ := refines_write_failed run channel refines index packet found
      refine ⟨after, .inr ⟨.fail, stepped⟩, ?_⟩
      simpa [SessionRun.record, SessionRun.delivered, SessionRun.failsWrite, SessionRun.givesUp] using refined

theorem quiet_handle (session next : RouterSession Addr) (index : Nat) (op : SessionOp Addr) (completion : Completion Addr)
    (packet : Option RouterPacket) (found : session.pending[index]? = some op) (unchained : op.isChain = false)
    (unwritten : op.writePacket = none) (handled : (session.finishOp index).handle op completion = some (next, packet)) :
    Quiet session next := by
  refine quiet_trans _ _ _ (quiet_finish_op session index op found unchained unwritten) ?_
  cases RouterSession.handled_of_handle handled with
  | resolve result => cases unchained
  | connect target iterator error => cases unchained
  | write sent error => cases unwritten
  | readHeader error bytes fits => exact quiet_trans _ _ _ (quiet_packet _ _) (quiet_read_header _ error bytes.length)
  | readPayload size error bytes fits => exact quiet_trans _ _ _ (quiet_packet _ _) (quiet_read_payload _ error bytes.length)
  | close => exact quiet_refl _

theorem step_refines (run next : SessionRun Addr) (channel : Channel Contents) (event : SessionEvent Addr)
    (refines : Refines run channel) (sound : channel.Sound) (stepped : run.step event = some next) :
    ∃ after, ChannelStep channel after ∧ Refines next after := by
  cases event with
  | addRouterPacket raw packet =>
      obtain ⟨after, accepted, refined⟩ := refines_add run channel refines sound raw packet
      cases stepped
      exact ⟨after, .inr ⟨_, accepted⟩, refined⟩
  | complete index completion =>
      obtain ⟨op, session, packet, found, handled, rfl⟩ := SessionRun.step_complete run next index completion stepped
      cases RouterSession.handled_of_handle handled with
      | resolve result => exact resolve_refines run channel refines index found result
      | connect target iterator error => exact connect_refines run channel refines sound index target iterator error found
      | write sent error => exact write_refines run channel refines index sent error found
      | readHeader _ _ _ | readPayload _ _ _ _ | close =>
          have quiet := quiet_handle run.session _ index _ _ _ found rfl rfl handled
          refine ⟨channel, .inl rfl, ?_⟩
          rw [SessionRun.record_plain _ _ _ _ rfl rfl rfl]
          exact refines_quiet run _ channel refines quiet

theorem reachable_refines (tuple : AdrTuple Addr) (run : SessionRun Addr)
    (reached : Machine.Reachable SessionRun.step (.create tuple) run) :
    ∃ channel : Channel Contents, Machine.Reachable Channel.step Channel.start channel ∧ Refines run channel := by
  refine Machine.reachable_invariant
    (fun state => ∃ channel, Machine.Reachable Channel.step Channel.start channel ∧ Refines state channel) ?_
    (.create tuple) run ⟨Channel.start, Machine.reachable_start _, refines_create tuple⟩ reached
  rintro state event next ⟨channel, channelReached, refines⟩ stepped
  obtain ⟨after, moved, refined⟩ :=
    step_refines state next channel event refines (Channel.reachable_sound channel channelReached) stepped
  rcases moved with rfl | ⟨channelEvent, channelStepped⟩
  · exact ⟨after, channelReached, refined⟩
  · exact ⟨after, Machine.reachable_step _ _ _ _ channelReached channelStepped, refined⟩

end Refines

structure SessionContract {Addr : Type} (run : SessionRun Addr) : Prop where
  kept : (run.written ++ run.session.udpPacketQueue).map RouterPacket.contents = run.accepted.map RouterPacket.contents
  oneChain : (chainOf run.session.pending).length ≤ 1
  startedOnce : startsOf run.session.started ≤ 1
  oneWrite : (writesOf run.session.pending).length ≤ 1
  frontWritten : ∀ packet ∈ writesOf run.session.pending, run.session.udpPacketQueue.head? = some packet
  busy : run.session.established = true → run.writeFailed = false →
    (writesOf run.session.pending ≠ [] ↔ run.session.udpPacketQueue ≠ [])

section Contract

variable {Addr : Type}

theorem refines_contract (run : SessionRun Addr) (channel : Channel Contents) (refines : Refines run channel)
    (sound : channel.Sound) : SessionContract run where
  kept := by rw [List.map_append, refines.written, refines.queue, refines.accepted, sound.kept]
  oneChain := by rw [refines.chain]; split <;> omega
  startedOnce := by rw [refines.starts]; split <;> omega
  oneWrite := by
    rw [refines.writes]
    split
    · cases run.session.udpPacketQueue <;> simp
    · simp
  frontWritten := by
    intro packet member
    rw [refines.writes] at member
    split at member
    · exact Option.mem_toList.mp member
    · cases member
  busy := by
    intro established noFailure
    have up : channel.link = .up := by simpa [noFailure] using refines.established.mp established
    rw [refines.writes, if_pos up]
    cases run.session.udpPacketQueue <;> simp

-- On a link that is down the queue is never empty, so no arrival starts a write, and
-- there is neither a connect nor a write whose end could start one.
theorem down_step (run next : SessionRun Addr) (channel : Channel Contents) (event : SessionEvent Addr)
    (refines : Refines run channel) (sound : channel.Sound) (down : channel.link = .down)
    (stepped : run.step event = some next) : writesOf next.session.started = writesOf run.session.started := by
  cases event with
  | addRouterPacket raw packet =>
      cases stepped
      cases queue : run.session.udpPacketQueue with
      | nil =>
          have waiting : channel.waiting = [] := by rw [← refines.queue, queue]; rfl
          exact absurd waiting (sound.wanted (.inr down))
      | cons front rest => simp [RouterSession.addRouterPacket, queue]
  | complete index completion =>
      obtain ⟨op, session, packet, found, handled, rfl⟩ := SessionRun.step_complete run next index completion stepped
      have unchained : op.isChain = false := by
        by_contra chained
        have opening := (chain_pending run channel refines index op found (by simpa using chained)).1
        simp [down] at opening
      have unwritten : op.writePacket = none := by
        cases op with
        | write sent =>
            have up := (write_pending run channel refines index sent found).1
            simp [down] at up
        | resolve | connect _ _ | readHeader | readPayload _ | close => rfl
      exact (quiet_handle run.session session index op completion packet found unchained unwritten handled).startedWrites

theorem flags_step (run next : SessionRun Addr) (event : SessionEvent Addr) (stepped : run.step event = some next)
    (failed : run.writeFailed = true ∨ run.gaveUp = true) : next.writeFailed = true ∨ next.gaveUp = true := by
  cases event with
  | addRouterPacket raw packet =>
      cases stepped
      exact failed
  | complete index completion =>
      obtain ⟨op, session, packet, _, _, rfl⟩ := SessionRun.step_complete run next index completion stepped
      rcases failed with wrote | gave
      · exact .inl (by simp [SessionRun.record, wrote])
      · exact .inr (by simp [SessionRun.record, gave])

theorem stopped_run (tuple : AdrTuple Addr) (run final : SessionRun Addr) (events : List (SessionEvent Addr))
    (reached : Machine.Reachable SessionRun.step (.create tuple) run)
    (failed : run.writeFailed = true ∨ run.gaveUp = true) (ran : Machine.run SessionRun.step run events = some final) :
    writesOf final.session.started = writesOf run.session.started := by
  refine (Machine.run_invariant (fun state => Machine.Reachable SessionRun.step (.create tuple) state ∧
    (state.writeFailed = true ∨ state.gaveUp = true) ∧
    writesOf state.session.started = writesOf run.session.started) ?_ run final events ⟨reached, failed, rfl⟩ ran).2.2
  rintro state event next ⟨stateReached, stateFailed, same⟩ stepped
  obtain ⟨channel, channelReached, refines⟩ := reachable_refines tuple state stateReached
  have sound := Channel.reachable_sound channel channelReached
  refine ⟨Machine.reachable_step _ _ _ _ stateReached stepped, flags_step state next event stepped stateFailed, ?_⟩
  rw [down_step state next channel event refines sound (refines.down.mpr stateFailed) stepped, same]

theorem session_writes_in_order (tuple : AdrTuple Addr) (run : SessionRun Addr)
    (reached : Machine.Reachable SessionRun.step (.create tuple) run) :
    SessionContract run ∧
      ((run.writeFailed = true ∨ run.gaveUp = true) → ∀ events final,
        Machine.run SessionRun.step run events = some final →
          writesOf final.session.started = writesOf run.session.started) := by
  obtain ⟨channel, channelReached, refines⟩ := reachable_refines tuple run reached
  have sound := Channel.reachable_sound channel channelReached
  exact ⟨refines_contract run channel refines sound,
    fun failed events final ran => stopped_run tuple run final events reached failed ran⟩

end Contract

def refusedThenBroken : List (SessionEvent Ipv4) :=
  let packet : RouterPacket := ⟨5, 1, CharArray.zeroed⟩
  let endpoint : Endpoint Ipv4 := ⟨.ofOctets 127 0 0 1, 3500⟩
  [.addRouterPacket CharArray.zeroed packet, .complete 0 (.resolved (.found endpoint [endpoint])),
    .addRouterPacket CharArray.zeroed packet, .complete 0 (.connected true), .complete 0 (.connected false),
    .complete 0 (.written false), .addRouterPacket CharArray.zeroed packet, .complete 1 (.written true)]

theorem session_writes_in_order_broken_link :
    ∃ run, Machine.run SessionRun.step (.create ⟨.udp, Ipv4.ofOctets 10 0 0 7, 2036⟩) refusedThenBroken = some run ∧
      run.writeFailed = true ∧ SessionContract run ∧ ∀ events final,
        Machine.run SessionRun.step run events = some final →
          writesOf final.session.started = writesOf run.session.started := by
  obtain ⟨run, ran, failed⟩ : ∃ run, Machine.run SessionRun.step (.create ⟨.udp, Ipv4.ofOctets 10 0 0 7, 2036⟩) refusedThenBroken =
      some run ∧ run.writeFailed = true := ⟨_, rfl, rfl⟩
  obtain ⟨contract, stopped⟩ := session_writes_in_order _ run ⟨_, ran⟩
  exact ⟨run, ran, failed, contract, stopped (.inl failed)⟩

end Rart
