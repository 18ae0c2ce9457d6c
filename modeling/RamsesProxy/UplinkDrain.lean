import RamsesProxy.UplinkProgress

set_option autoImplicit false

namespace Rart

section Work

variable {Addr : Type}

def SessionOp.isUplink (op : SessionOp Addr) : Bool := op.isChain || op.writePacket.isSome

-- How many operations have to succeed before the socket is connected.
def SessionOp.chainWork : SessionOp Addr → Nat
  | .resolve => 2
  | .connect _ _ => 1
  | .write _ | .readHeader | .readPayload _ | .close => 0

def chainWork (ops : List (SessionOp Addr)) : Nat := ((chainOf ops).map SessionOp.chainWork).sum

-- The lookup, the connect and one write for every packet that waits.
def RouterSession.uplinkWork (session : RouterSession Addr) : Nat :=
  session.udpPacketQueue.length + chainWork session.pending

theorem uplink_work_quiet (before after : RouterSession Addr) (quiet : Quiet before after) :
    after.uplinkWork = before.uplinkWork := by
  simp only [RouterSession.uplinkWork, chainWork, quiet.queue, quiet.chain]

theorem chain_work_found (session : RouterSession Addr) (index : Nat) (op : SessionOp Addr)
    (found : session.pending[index]? = some op) (chained : op.isChain = true)
    (unchained : chainOf (session.finishOp index).pending = []) : chainWork session.pending = op.chainWork := by
  obtain ⟨left, right, whole, rest⟩ := Sequences.erase_split session.pending index op found
  rw [RouterSession.finish_op_pending, rest, chain_of_append, List.append_eq_nil_iff] at unchained
  simp [chainWork, whole, unchained.1, unchained.2, chained]

theorem uplink_work_connecting (session : RouterSession Addr) (endpoint : Endpoint Addr) (next : List (Endpoint Addr))
    (unchained : chainOf session.pending = []) :
    (session.asyncConnect endpoint next).uplinkWork = session.udpPacketQueue.length + 1 := by
  have chain : chainOf (session.asyncConnect endpoint next).pending = [.connect endpoint next] := by
    simp [RouterSession.asyncConnect, unchained, SessionOp.isChain]
  simp only [RouterSession.uplinkWork, chainWork, chain, List.map_cons, List.map_nil, List.sum_cons, List.sum_nil,
    SessionOp.chainWork]
  rfl

theorem uplink_work_delivering (session : RouterSession Addr) (isOpen : session.socketOpen = true)
    (unchained : chainOf session.pending = []) : session.deliverToTcpPeer.uplinkWork = session.udpPacketQueue.length := by
  unfold RouterSession.deliverToTcpPeer
  rw [if_neg (by simp [isOpen])]
  cases queue : session.udpPacketQueue with
  | nil => simp [RouterSession.uplinkWork, chainWork, queue, unchained]
  | cons front rest => simp [RouterSession.uplinkWork, chainWork, queue, unchained, SessionOp.isChain]

theorem uplink_work_connected (session : RouterSession Addr) (iterator : List (Endpoint Addr)) (isOpen : session.socketOpen = true)
    (unchained : chainOf session.pending = []) :
    (session.handleConnection false iterator).uplinkWork = session.udpPacketQueue.length := by
  unfold RouterSession.handleConnection
  rw [if_pos ⟨rfl, isOpen⟩, RouterSession.startReadFromTcp, uplink_work_quiet _ _ (quiet_start_op _ .readHeader rfl rfl)]
  exact uplink_work_delivering { session with established := true } isOpen unchained

theorem uplink_work_delivered (session : RouterSession Addr) (packet : RouterPacket) (rest : List RouterPacket)
    (isOpen : session.socketOpen = true) (unchained : chainOf session.pending = [])
    (queue : session.udpPacketQueue = packet :: rest) : (session.handleDeliverTcp false).uplinkWork = rest.length := by
  simp only [RouterSession.handleDeliverTcp, if_true, queue, List.tail_cons]
  cases rest with
  | nil => simp [RouterSession.uplinkWork, chainWork, unchained]
  | cons front others =>
      simp only [List.isEmpty_cons, if_true]
      exact uplink_work_delivering { session with udpPacketQueue := front :: others } isOpen unchained

theorem uplink_work_handled (object after : RouterSession Addr) (index : Nat) (op : SessionOp Addr) (completion : Completion Addr)
    (packet : Option RouterPacket) (own : OwnRun object) (found : object.pending[index]? = some op)
    (handled : (object.finishOp index).handle op completion = some (after, packet)) (succeeds : op.fails completion = false) :
    after.uplinkWork + (if op.isUplink = true then 1 else 0) = object.uplinkWork := by
  obtain ⟨run, reached, rfl⟩ := own
  obtain ⟨channel, _, refines⟩ := reachable_refines _ run reached
  cases RouterSession.handled_of_handle handled with
  | resolve result =>
      obtain ⟨_, unchained, _⟩ := chain_pending run channel refines index .resolve found rfl
      have before := chain_work_found run.session index .resolve found rfl unchained
      cases result with
      | failed iterator => cases succeeds
      | found endpoint next =>
          have connecting := uplink_work_connecting (run.session.finishOp index) endpoint next unchained
          rw [RouterSession.handleResolve, connecting, RouterSession.uplinkWork, before]
          rfl
  | connect target iterator error =>
      obtain ⟨_, unchained, _⟩ := chain_pending run channel refines index (.connect target iterator) found rfl
      have before := chain_work_found run.session index (.connect target iterator) found rfl unchained
      cases error with
      | true => cases succeeds
      | false =>
          have isOpen := connecting_open _ run reached index target iterator found
          rw [uplink_work_connected (run.session.finishOp index) iterator isOpen unchained, RouterSession.uplinkWork, before]
          rfl
  | write sent error =>
      obtain ⟨up, _, sameChain, rest, queue⟩ := write_pending run channel refines index sent found
      have chain := refines.chain
      simp only [up, reduceCtorEq, if_false, List.length_eq_zero_iff] at chain
      cases error with
      | true => cases succeeds
      | false =>
          rw [uplink_work_delivered (run.session.finishOp index) sent rest (refines.upSocket up) (sameChain.trans chain) queue,
            RouterSession.uplinkWork, chainWork, chain, queue]
          rfl
  | readHeader _ _ _ | readPayload _ _ _ _ | close =>
      have quiet := quiet_handle run.session _ index _ _ _ found rfl rfl handled
      rw [uplink_work_quiet _ _ quiet]
      rfl

theorem uplink_work_zero (object : RouterSession Addr) (own : OwnRun object) :
    object.uplinkWork = 0 ↔ object.udpPacketQueue = [] := by
  obtain ⟨run, reached, rfl⟩ := own
  obtain ⟨channel, channelReached, refines⟩ := reachable_refines _ run reached
  constructor
  · intro none
    exact List.eq_nil_of_length_eq_zero (Nat.eq_zero_of_add_eq_zero_right none)
  · intro empty
    have chain := refines.chain
    cases empty_queue_link run channel refines (Channel.reachable_sound channel channelReached) empty with
    | inl idle =>
        simp only [idle, reduceCtorEq, if_false, List.length_eq_zero_iff] at chain
        simp [RouterSession.uplinkWork, chainWork, empty, chain]
    | inr up =>
        simp only [up, reduceCtorEq, if_false, List.length_eq_zero_iff] at chain
        simp [RouterSession.uplinkWork, chainWork, empty, chain]

theorem uplink_enabled (object : RouterSession Addr) (waiting : object.udpPacketQueue ≠ []) (moving : ¬ Stalled object) :
    ∃ index op completion after, object.pending[index]? = some op ∧ op.isUplink = true ∧ op.fails completion = false ∧
      (object.finishOp index).handle op completion = some (after, none) := by
  have pending : ∃ op ∈ object.pending, op.isUplink = true := by
    by_contra absent
    refine moving ⟨waiting, ?_, ?_⟩
    · apply List.filter_eq_nil_iff.mpr
      intro op member chained
      exact absent ⟨op, member, by simp [SessionOp.isUplink, chained]⟩
    · apply List.filterMap_eq_nil_iff.mpr
      intro op member
      cases written : op.writePacket with
      | none => rfl
      | some packet => exact absurd ⟨op, member, by simp [SessionOp.isUplink, written]⟩ absent
  obtain ⟨op, member, uplink⟩ := pending
  obtain ⟨index, found⟩ := List.mem_iff_getElem?.mp member
  cases op with
  | resolve => exact ⟨index, .resolve, .resolved (.found ⟨object.udpTuple.adr, 0⟩ []), _, found, rfl, rfl, rfl⟩
  | connect target iterator => exact ⟨index, .connect target iterator, .connected false, _, found, rfl, rfl, rfl⟩
  | write packet => exact ⟨index, .write packet, .written false, _, found, rfl, rfl, rfl⟩
  | readHeader | readPayload _ | close => cases uplink

end Work

namespace Router

variable {Addr : Type} [AsioAddress Addr]

-- No datagram for the session, and none of its own operations fails.
def Steady (session : Nat) (router : Router Addr) : RouterEvent Addr → Prop
  | .received error peer data _ => error = false ∨ data.length > 0 → router.manager.udpSessions.find peer.udpTuple ≠ some session
  | .completed other index completion _ => other = session → ∀ object op, router.manager.sessions[session]? = some object →
      object.pending[index]? = some op → op.fails completion = false
  | .sent _ _ => True

def advances (session : Nat) (router : Router Addr) (event : RouterEvent Addr) (_next : Router Addr) : List (SessionOp Addr) :=
  match event with
  | .completed other index _ _ =>
      if other = session then
        (router.manager.sessions[session]?.bind fun object => object.pending[index]?).toList.filter SessionOp.isUplink
      else []
  | .received _ _ _ _ | .sent _ _ => []

def UplinkLeft (session : Nat) (router : Router Addr) (work : Nat) : Prop :=
  router.manager.Coherent ∧ ∃ object, router.manager.sessions[session]? = some object ∧ ¬ Stalled object ∧ object.uplinkWork = work

theorem uplink_left_step (session : Nat) (router : Router Addr) (event : RouterEvent Addr) (next : Router Addr) (work : Nat)
    (before : UplinkLeft session router work) (steady : router.Steady session event) (stepped : router.step event = some next) :
    ∃ rest, UplinkLeft session next rest ∧ rest + (advances session router event next).length = work := by
  obtain ⟨coherent, object, present, moving, rfl⟩ := before
  have kept := coherent_step router next event coherent stepped
  rcases step_manager router next event stepped with
    ⟨error, peer, data, raw, rfl, same⟩ | ⟨other, index, completion, raw, packet, rfl, completed⟩ | ⟨_, _, rfl, same⟩
  · refine ⟨object.uplinkWork, ⟨kept, object, ?_, moving, rfl⟩, rfl⟩
    rw [same, SessionManager.handleReceive]
    by_cases dispatched : error = false ∨ data.length > 0
    · rw [if_pos dispatched]
      cases SessionManager.deliver_cases router.manager raw peer.udpTuple data coherent.own with
      | inl reused =>
          obtain ⟨taker, _, mapped, _, _, delivered⟩ := reused
          have apart : taker ≠ session := fun here => steady dispatched (here ▸ mapped)
          rw [delivered, List.getElem?_set_ne apart]
          exact present
      | inr created =>
          rw [created.2, List.getElem?_append_left (List.getElem?_eq_some_iff.mp present).1]
          exact present
    · rw [if_neg dispatched, SessionManager.remove_session_sessions]
      exact present
  · obtain ⟨owner, op, after, ownerPresent, found, handled, _, outcome⟩ :=
      SessionManager.complete_cases router.manager next.manager other index completion packet completed
    have bound := (List.getElem?_eq_some_iff.mp ownerPresent).1
    have sessions :=
      SessionManager.completed_sessions router.manager next.manager other op owner after ownerPresent outcome
    by_cases here : other = session
    · subst here
      obtain rfl := Option.some.inj (present.symm.trans ownerPresent)
      have own := coherent.runs other object present
      have succeeds := steady rfl object op present found
      refine ⟨after.uplinkWork, ⟨kept, after, by rw [sessions, List.getElem?_set_self bound], ?_, rfl⟩, ?_⟩
      · intro stalled
        cases stalled_handled object after index op completion packet own found handled stalled with
        | inl before => exact moving before
        | inr failed => exact absurd (failed.1.symm.trans succeeds) (by simp)
      · rw [← uplink_work_handled object after index op completion packet own found handled succeeds]
        simp only [advances, if_true, present, Option.bind_some, found, Option.toList_some]
        cases uplink : op.isUplink with
        | true => simp [uplink]
        | false => simp [uplink]
    · refine ⟨object.uplinkWork, ⟨kept, object, ?_, moving, rfl⟩, by simp [advances, here]⟩
      rw [sessions, List.getElem?_set_ne here]
      exact present
  · exact ⟨object.uplinkWork, ⟨kept, object, by rw [same]; exact present, moving, rfl⟩, rfl⟩

theorem handled_step (router : Router Addr) (session index : Nat) (object after : RouterSession Addr) (op : SessionOp Addr)
    (completion : Completion Addr) (raw : CharArray payloadCapacity) (present : router.manager.sessions[session]? = some object)
    (found : object.pending[index]? = some op) (handled : (object.finishOp index).handle op completion = some (after, none)) :
    ∃ next, router.step (.completed session index completion raw) = some next := by
  have completed : object.complete index completion = some (after, none) := by
    simp only [RouterSession.complete, found, handled]
  simp only [step, SessionManager.complete, present, found, completed, UdpRelay.handOver]
  exact ⟨_, rfl⟩

-- A steady uplink drains: while packets wait an operation of it can succeed, and as many
-- as were left to do at the start bring it to an empty queue.
theorem uplink_drains (router later : Router Addr) (reached : Machine.Reachable step create router) (session : Nat)
    (object : RouterSession Addr) (present : router.manager.sessions[session]? = some object) (moving : ¬ Stalled object)
    (events : List (RouterEvent Addr)) (steady : Machine.Guarded step (Steady session) router events)
    (ran : Machine.run step router events = some later) :
    ∃ after, later.manager.sessions[session]? = some after ∧
      after.uplinkWork + (Machine.outputs step (advances session) router events).length = object.uplinkWork ∧
      (after.uplinkWork = 0 ↔ after.udpPacketQueue = []) ∧
      (after.udpPacketQueue ≠ [] → ∃ index op completion, after.pending[index]? = some op ∧ op.isUplink = true ∧
        op.fails completion = false ∧ ∀ raw, ∃ next, later.step (.completed session index completion raw) = some next) := by
  obtain ⟨before, ranBefore⟩ := reached
  have coherent := coherent_run before router ranBefore
  obtain ⟨left, ⟨laterCoherent, after, afterPresent, afterMoving, rfl⟩, total⟩ :=
    Machine.outputs_spend (advances session) (Steady session) (UplinkLeft session)
      (fun state event next work => uplink_left_step session state event next work) router later events object.uplinkWork
      ⟨coherent, object, present, moving, rfl⟩ steady ran
  refine ⟨after, afterPresent, total, uplink_work_zero after (laterCoherent.runs session after afterPresent), fun waiting => ?_⟩
  obtain ⟨index, op, completion, handledAfter, found, uplink, succeeds, handled⟩ := uplink_enabled after waiting afterMoving
  exact ⟨index, op, completion, found, uplink, succeeds, fun raw =>
    handled_step later session index after handledAfter op completion raw afterPresent found handled⟩

def queuedTwice : List (RouterEvent Ipv4) :=
  [.received false ⟨.ofOctets 1 2 3 4, 5⟩ [1] CharArray.zeroed, .received false ⟨.ofOctets 1 2 3 4, 5⟩ [2] CharArray.zeroed]

def serverAnswers : List (RouterEvent Ipv4) :=
  [.completed 0 0 (.resolved (.found ⟨.ofOctets 127 0 0 1, 3500⟩ [])) CharArray.zeroed,
    .completed 0 0 (.connected false) CharArray.zeroed, .completed 0 0 (.written false) CharArray.zeroed,
    .completed 0 1 (.written false) CharArray.zeroed]

theorem server_answers_steady (router : Router Ipv4) (ran : Machine.run step create queuedTwice = some router) :
    Machine.Guarded step (Steady 0) router serverAnswers := by
  cases ran
  refine ⟨?_, fun first firstStep => ⟨?_, fun second secondStep => ⟨?_, fun third thirdStep => ⟨?_, fun _ _ => trivial⟩⟩⟩⟩
  · intro _ object op present found
    cases present
    cases found
    rfl
  · cases firstStep
    intro _ object op present found
    cases present
    cases found
    rfl
  · cases firstStep
    cases secondStep
    intro _ object op present found
    cases present
    cases found
    rfl
  · cases firstStep
    cases secondStep
    cases thirdStep
    intro _ object op present found
    cases present
    cases found
    rfl

theorem uplink_drains_answered :
    ∃ router later : Router Ipv4, Machine.run step create queuedTwice = some router ∧
      Machine.run step router serverAnswers = some later ∧ (router.queueAt 0).length = 2 ∧ later.queueAt 0 = [] := by
  obtain ⟨router, later, object, ran, ranLater, present, held, waiting, work, chained⟩ : ∃ (router later : Router Ipv4)
      (object : RouterSession Ipv4), Machine.run step create queuedTwice = some router ∧
      Machine.run step router serverAnswers = some later ∧ router.manager.sessions[0]? = some object ∧
      router.manager.alive 0 = true ∧ object.udpPacketQueue.length = 2 ∧
      object.uplinkWork = (Machine.outputs step (advances 0) router serverAnswers).length ∧ chainOf object.pending = [.resolve] :=
    ⟨_, _, _, rfl, rfl, rfl, by decide, rfl, rfl, rfl⟩
  have moving : ¬ Stalled object := by
    intro stalled
    cases chained.symm.trans stalled.unchained
  obtain ⟨after, afterPresent, total, drained, _⟩ :=
    uplink_drains router later ⟨_, ran⟩ 0 object present moving serverAnswers (server_answers_steady router ran) ranLater
  refine ⟨router, later, ran, ranLater, ?_, ?_⟩
  · simp only [queueAt, held, if_true, present, Option.map_some, Option.getD_some, waiting]
  · have left : after.uplinkWork = 0 := by omega
    simp only [queueAt, afterPresent, Option.map_some, Option.getD_some, drained.mp left, ite_self]

end Router

end Rart
