import RamsesProxy.SessionWriter

set_option autoImplicit false

namespace Rart

section Reads

variable {Addr : Type}

def readsOf (ops : List (SessionOp Addr)) : Nat := ops.countP fun op => op.readSize.isSome

@[simp] theorem reads_of_append (left right : List (SessionOp Addr)) :
    readsOf (left ++ right) = readsOf left + readsOf right := List.countP_append

@[simp] theorem reads_of_nil : readsOf ([] : List (SessionOp Addr)) = 0 := rfl

@[simp] theorem reads_of_cons (op : SessionOp Addr) (rest : List (SessionOp Addr)) :
    readsOf (op :: rest) = readsOf rest + if op.readSize.isSome then 1 else 0 := List.countP_cons

-- The session goes on with some more operations under way. Nothing ever changes the
-- tuple it was created with.
structure Starts (session next : RouterSession Addr) (fresh : List (SessionOp Addr)) : Prop where
  tuple : next.udpTuple = session.udpTuple
  pending : next.pending = session.pending ++ fresh
  started : next.started = session.started ++ fresh

def Undecoded (session : RouterSession Addr) (op : SessionOp Addr) (completion : Completion Addr) : Prop :=
  ∃ size bytes, op = .readPayload size ∧ completion = .read false bytes ∧ bytes ≠ [] ∧
    (session.storeRead headerLength bytes).fromTcpPacket.decodePeer.2 = false

theorem deliver_to_tcp_peer_starts (session : RouterSession Addr) :
    ∃ fresh, Starts session session.deliverToTcpPeer fresh ∧ readsOf fresh = 0 ∧
      session.deliverToTcpPeer.established = session.established ∧
      session.deliverToTcpPeer.udpPacketQueue = session.udpPacketQueue := by
  unfold RouterSession.deliverToTcpPeer
  split
  · exact ⟨[.resolve], ⟨rfl, rfl, rfl⟩, rfl, rfl, rfl⟩
  · split
    · exact ⟨[], ⟨rfl, by simp, by simp⟩, rfl, rfl, rfl⟩
    · exact ⟨[.write _], ⟨rfl, rfl, rfl⟩, rfl, rfl, rfl⟩

theorem add_router_packet_starts (session : RouterSession Addr) (raw : CharArray payloadCapacity) (packet : RouterPacket) :
    ∃ fresh, Starts session (session.addRouterPacket raw packet) fresh ∧ readsOf fresh = 0 ∧
      (session.addRouterPacket raw packet).established = session.established ∧
      (session.addRouterPacket raw packet).udpPacketQueue = session.udpPacketQueue ++ [.copyConstruct raw packet] := by
  unfold RouterSession.addRouterPacket
  dsimp only
  split
  · obtain ⟨fresh, starts, unread, established, queue⟩ := deliver_to_tcp_peer_starts
      { session with udpPacketQueue := session.udpPacketQueue ++ [.copyConstruct raw packet] }
    exact ⟨fresh, ⟨starts.tuple, starts.pending, starts.started⟩, unread, established, queue⟩
  · exact ⟨[], ⟨rfl, by simp, by simp⟩, rfl, rfl, rfl⟩

theorem handle_connection_starts (session : RouterSession Addr) (error : Bool) (iterator : List (Endpoint Addr)) :
    ∃ fresh, Starts session (session.handleConnection error iterator) fresh ∧
      (((session.handleConnection error iterator).established = session.established ∧ readsOf fresh = 0) ∨
       ((session.handleConnection error iterator).established = true ∧ readsOf fresh = 1)) := by
  unfold RouterSession.handleConnection
  split
  · obtain ⟨fresh, starts, unread, established, _⟩ := deliver_to_tcp_peer_starts { session with established := true }
    refine ⟨fresh ++ [.readHeader], ⟨starts.tuple, ?_, ?_⟩, .inr ⟨established, by simp [unread, SessionOp.readSize]⟩⟩
    · simp [RouterSession.startReadFromTcp, starts.pending]
    · simp [RouterSession.startReadFromTcp, starts.started]
  · split
    · exact ⟨[.connect _ _], ⟨rfl, rfl, rfl⟩, .inl ⟨rfl, rfl⟩⟩
    · exact ⟨[.close], ⟨rfl, rfl, rfl⟩, .inl ⟨rfl, rfl⟩⟩

theorem handle_resolve_starts (session : RouterSession Addr) (result : ResolveResult Addr) :
    ∃ fresh, Starts session (session.handleResolve result) fresh ∧
      (session.handleResolve result).established = session.established ∧ readsOf fresh = 0 := by
  unfold RouterSession.handleResolve
  split
  · exact ⟨[.connect _ _], ⟨rfl, rfl, rfl⟩, rfl, rfl⟩
  · exact ⟨[.connect _ _], ⟨rfl, rfl, rfl⟩, rfl, rfl⟩
  · exact ⟨[.close], ⟨rfl, rfl, rfl⟩, rfl, rfl⟩

theorem handle_deliver_tcp_starts (session : RouterSession Addr) (error : Bool) :
    ∃ fresh, Starts session (session.handleDeliverTcp error) fresh ∧
      (session.handleDeliverTcp error).established = session.established ∧ readsOf fresh = 0 := by
  unfold RouterSession.handleDeliverTcp
  split
  · dsimp only
    split
    · obtain ⟨fresh, starts, unread, established, _⟩ :=
        deliver_to_tcp_peer_starts { session with udpPacketQueue := session.udpPacketQueue.tail }
      exact ⟨fresh, ⟨starts.tuple, starts.pending, starts.started⟩, established, unread⟩
    · exact ⟨[], ⟨rfl, by simp, by simp⟩, rfl, rfl⟩
  · exact ⟨[.close], ⟨rfl, rfl, rfl⟩, rfl, rfl⟩

theorem handle_read_header_starts (session : RouterSession Addr) (error : Bool) (bytesLength : Nat) :
    ∃ fresh, Starts session (session.handleReadHeader error bytesLength) fresh ∧
      (session.handleReadHeader error bytesLength).established = session.established ∧
      (readsOf fresh = 1 ∨ (readsOf fresh = 0 ∧ .close ∈ fresh)) := by
  unfold RouterSession.handleReadHeader
  split
  · exact ⟨[.close], ⟨rfl, rfl, rfl⟩, rfl, .inr ⟨rfl, by simp⟩⟩
  · split
    · dsimp only
      split
      · exact ⟨[.readPayload _], ⟨rfl, rfl, rfl⟩, rfl, .inl rfl⟩
      · exact ⟨[.close], ⟨rfl, rfl, rfl⟩, rfl, .inr ⟨rfl, by simp⟩⟩
    · exact ⟨[.close], ⟨rfl, rfl, rfl⟩, rfl, .inr ⟨rfl, by simp⟩⟩

theorem handle_read_payload_starts (session : RouterSession Addr) (error : Bool) (bytesLength : Nat) :
    ∃ fresh, Starts session (session.handleReadPayload error bytesLength).1 fresh ∧
      (session.handleReadPayload error bytesLength).1.established = session.established ∧
      (readsOf fresh = 1 ∨ (readsOf fresh = 0 ∧ .close ∈ fresh) ∨
       (fresh = [] ∧ error = false ∧ bytesLength ≠ 0 ∧ session.fromTcpPacket.decodePeer.2 = false)) := by
  by_cases empty : bytesLength = 0
  · cases error with
    | false =>
        refine ⟨[.close], ?_, ?_, .inr (.inl ⟨rfl, by simp⟩)⟩ <;> simp [RouterSession.handleReadPayload, empty,
          RouterSession.closeSession]
        exact ⟨rfl, rfl, rfl⟩
    | true =>
        refine ⟨[.close, .close], ?_, ?_, .inr (.inl ⟨rfl, by simp⟩)⟩ <;> simp [RouterSession.handleReadPayload, empty,
          RouterSession.closeSession]
        exact ⟨rfl, by simp, by simp⟩
  · cases error with
    | true =>
        refine ⟨[.close], ?_, ?_, .inr (.inl ⟨rfl, by simp⟩)⟩ <;> simp [RouterSession.handleReadPayload, empty,
          RouterSession.closeSession]
        exact ⟨rfl, rfl, rfl⟩
    | false =>
        simp only [RouterSession.handleReadPayload, if_neg empty, if_true]
        by_cases decoded : session.fromTcpPacket.decodePeer.2 = true
        · rw [if_pos decoded]
          exact ⟨[.readHeader], ⟨rfl, rfl, rfl⟩, rfl, .inl rfl⟩
        · rw [if_neg decoded]
          exact ⟨[], ⟨rfl, by simp, by simp⟩, rfl, .inr (.inr ⟨rfl, trivial, empty, by simpa using decoded⟩)⟩

structure Effect (op : SessionOp Addr) (completion : Completion Addr) (session next : RouterSession Addr)
    (fresh : List (SessionOp Addr)) : Prop where
  starts : Starts session next fresh
  connects : op.isChain = true → (next.established = session.established ∧ readsOf fresh = 0) ∨
    (next.established = true ∧ readsOf fresh = 1)
  keeps : op.isChain = false → next.established = session.established
  unread : op.isChain = false → op.readSize = none → readsOf fresh = 0
  readsOn : op.readSize ≠ none → readsOf fresh = 1 ∨ (readsOf fresh = 0 ∧ .close ∈ fresh) ∨
    (fresh = [] ∧ Undecoded session op completion)

theorem handle_effect (session next : RouterSession Addr) (op : SessionOp Addr) (completion : Completion Addr)
    (packet : Option RouterPacket) (handled : session.handle op completion = some (next, packet)) :
    ∃ fresh, Effect op completion session next fresh := by
  cases RouterSession.handled_of_handle handled with
  | resolve result =>
      obtain ⟨fresh, starts, established, unread⟩ := handle_resolve_starts session result
      exact ⟨fresh, starts, fun _ => .inl ⟨established, unread⟩, fun chain => (by cases chain), fun chain => (by cases chain),
        fun reads => absurd rfl reads⟩
  | connect target iterator error =>
      obtain ⟨fresh, starts, outcome⟩ := handle_connection_starts session error iterator
      exact ⟨fresh, starts, fun _ => outcome, fun chain => (by cases chain), fun chain => (by cases chain),
        fun reads => absurd rfl reads⟩
  | write sent error =>
      obtain ⟨fresh, starts, established, unread⟩ := handle_deliver_tcp_starts session error
      exact ⟨fresh, starts, fun chain => (by cases chain), fun _ => established, fun _ _ => unread,
        fun reads => absurd rfl reads⟩
  | readHeader error bytes fits =>
      obtain ⟨fresh, starts, established, outcome⟩ :=
        handle_read_header_starts (session.storeRead 0 bytes) error bytes.length
      exact ⟨fresh, ⟨starts.tuple, starts.pending, starts.started⟩, fun chain => (by cases chain), fun _ => established,
        fun _ reads => (by cases reads), fun _ => outcome.imp_right .inl⟩
  | readPayload size error bytes fits =>
      obtain ⟨fresh, starts, established, outcome⟩ :=
        handle_read_payload_starts (session.storeRead headerLength bytes) error bytes.length
      refine ⟨fresh, ⟨starts.tuple, starts.pending, starts.started⟩, fun chain => (by cases chain), fun _ => established,
        fun _ reads => (by cases reads), fun _ => outcome.imp_right (.imp_right ?_)⟩
      rintro ⟨none, rfl, nonempty, refused⟩
      exact ⟨none, size, bytes, rfl, rfl, fun empty => nonempty (by simp [empty]), refused⟩
  | close =>
      exact ⟨[], ⟨rfl, by simp, by simp⟩, fun chain => (by cases chain), fun _ => rfl, fun _ _ => rfl,
        fun reads => absurd rfl reads⟩

theorem undecoded_effect (session next : RouterSession Addr) (op : SessionOp Addr) (completion : Completion Addr)
    (packet : Option RouterPacket) (undecoded : Undecoded session op completion)
    (handled : session.handle op completion = some (next, packet)) :
    next.pending = session.pending ∧ next.established = session.established := by
  obtain ⟨size, bytes, rfl, rfl, nonempty, refused⟩ := undecoded
  have some : ¬ bytes.length = 0 := fun zero => nonempty (List.length_eq_zero_iff.mp zero)
  cases RouterSession.handled_of_handle handled with
  | readPayload _ _ _ fits =>
      simp only [RouterSession.handleReadPayload, if_neg some, refused, Bool.false_eq_true, if_false, if_true]
      exact ⟨rfl, rfl⟩

structure ReadsOnce (session : RouterSession Addr) : Prop where
  atMostOne : readsOf session.pending ≤ 1
  connected : session.established = false → readsOf session.pending = 0

theorem finished_reads (session : RouterSession Addr) (index : Nat) (op : SessionOp Addr)
    (found : session.pending[index]? = some op) :
    readsOf session.pending = readsOf (session.finishOp index).pending + if op.readSize.isSome then 1 else 0 := by
  obtain ⟨left, right, whole, rest⟩ := Sequences.erase_split session.pending index op found
  rw [RouterSession.finish_op_pending, rest, whole]
  simp only [reads_of_append, reads_of_cons]
  omega

theorem chain_unconnected (tuple : AdrTuple Addr) (run : SessionRun Addr)
    (reached : Machine.Reachable SessionRun.step (.create tuple) run) (index : Nat) (op : SessionOp Addr)
    (found : run.session.pending[index]? = some op) (chained : op.isChain = true) : run.session.established = false := by
  obtain ⟨channel, _, refines⟩ := reachable_refines tuple run reached
  have opening := (chain_pending run channel refines index op found chained).1
  have noFailure : run.writeFailed = false := by
    by_contra failed
    have down := refines.down.mpr (.inl (by simpa using failed))
    simp [opening] at down
  by_contra established
  have outcome := refines.established.mp (by simpa using established)
  simp [opening, noFailure] at outcome

theorem connecting_open (tuple : AdrTuple Addr) (run : SessionRun Addr)
    (reached : Machine.Reachable SessionRun.step (.create tuple) run) (index : Nat) (target : Endpoint Addr)
    (iterator : List (Endpoint Addr)) (found : run.session.pending[index]? = some (.connect target iterator)) :
    run.session.socketOpen = true := by
  obtain ⟨channel, _, refines⟩ := reachable_refines tuple run reached
  apply refines.connecting (.connect target iterator)
  · exact List.mem_filter.mpr ⟨List.mem_of_getElem? found, rfl⟩
  · rfl

theorem reads_once_handled (session next : RouterSession Addr) (index : Nat) (op : SessionOp Addr) (completion : Completion Addr)
    (fresh : List (SessionOp Addr)) (once : ReadsOnce session) (found : session.pending[index]? = some op)
    (unconnected : op.isChain = true → session.established = false)
    (effect : Effect op completion (session.finishOp index) next fresh) : ReadsOnce next := by
  have finished := finished_reads session index op found
  have pending : readsOf next.pending = readsOf (session.finishOp index).pending + readsOf fresh := by
    rw [effect.starts.pending, reads_of_append]
  have atMostOne := once.atMostOne
  cases chain : op.isChain with
  | true =>
      have none := once.connected (unconnected chain)
      rcases effect.connects chain with ⟨same, unread⟩ | ⟨established, one⟩
      · exact ⟨by omega, fun _ => by omega⟩
      · exact ⟨by omega, fun unestablished => by simp [established] at unestablished⟩
  | false =>
      have same : next.established = session.established := effect.keeps chain
      cases size : op.readSize with
      | none =>
          have unread := effect.unread chain size
          simp only [size, Option.isSome_none, Bool.false_eq_true, if_false] at finished
          exact ⟨by omega, fun unestablished => by rw [same] at unestablished; have := once.connected unestablished; omega⟩
      | some amount =>
          simp only [size, Option.isSome_some, if_true] at finished
          have few : readsOf fresh ≤ 1 := by
            rcases effect.readsOn (by simp [size]) with one | ⟨none, _⟩ | ⟨rfl, _⟩
            · omega
            · omega
            · simp
          refine ⟨by omega, fun unestablished => ?_⟩
          rw [same] at unestablished
          have := once.connected unestablished
          omega

theorem reads_once_step (tuple : AdrTuple Addr) (run next : SessionRun Addr) (event : SessionEvent Addr)
    (reached : Machine.Reachable SessionRun.step (.create tuple) run) (once : ReadsOnce run.session)
    (stepped : run.step event = some next) : ReadsOnce next.session := by
  cases event with
  | addRouterPacket raw packet =>
      cases stepped
      obtain ⟨fresh, starts, unread, established, _⟩ := add_router_packet_starts run.session raw packet
      have same : readsOf (run.session.addRouterPacket raw packet).pending = readsOf run.session.pending := by
        rw [starts.pending, reads_of_append, unread, Nat.add_zero]
      refine ⟨same ▸ once.atMostOne, fun unestablished => ?_⟩
      rw [established] at unestablished
      exact same.trans (once.connected unestablished)
  | complete index completion =>
      obtain ⟨op, session, packet, found, handled, rfl⟩ := SessionRun.step_complete run next index completion stepped
      obtain ⟨fresh, effect⟩ := handle_effect _ session op completion packet handled
      exact reads_once_handled run.session session index op completion fresh once found
        (chain_unconnected tuple run reached index op found) effect

theorem reachable_reads_once (tuple : AdrTuple Addr) (run : SessionRun Addr)
    (reached : Machine.Reachable SessionRun.step (.create tuple) run) : ReadsOnce run.session := by
  refine (Machine.reachable_invariant
    (fun state => Machine.Reachable SessionRun.step (.create tuple) state ∧ ReadsOnce state.session) ?_ (.create tuple) run
    ⟨Machine.reachable_start _, ⟨by simp [SessionRun.create, RouterSession.create], fun _ => rfl⟩⟩ reached).2
  rintro state event next ⟨stateReached, once⟩ stepped
  exact ⟨Machine.reachable_step _ _ _ _ stateReached stepped, reads_once_step tuple state next event stateReached once stepped⟩

end Reads

end Rart
