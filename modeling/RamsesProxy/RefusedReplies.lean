import RamsesProxy.ReplyOrder

set_option autoImplicit false

namespace Rart

def PeerRefused (packet : RouterPacket) : Prop := packet.getPeerData 128 = none

def RefusedOrWellFormed (Addr : Type) [AsioAddress Addr] : RelayEvent → Prop
  | .frame _ packet => WellFormed Addr packet ∨ PeerRefused packet
  | .sent _ error => error = false

section Kinds

variable {Addr : Type} [AsioAddress Addr]

theorem refused_address_iff (reply : Reply) : reply.address Addr = .ok none ↔ PeerRefused reply.packet := by
  unfold PeerRefused
  constructor
  · intro refused
    unfold Reply.address at refused
    split at refused
    · assumption
    · split at refused
      · cases refused
      · split at refused
        · cases refused
        · cases refused
  · intro refused
    simp only [Reply.address, refused]

theorem deliverable_not_refused (reply : Reply) (deliverable : Deliverable Addr reply) : ¬ PeerRefused reply.packet := by
  intro refused
  obtain ⟨send, addressed⟩ := deliverable
  rw [(refused_address_iff reply).mpr refused] at addressed
  cases addressed

theorem copy_refused (raw : CharArray payloadCapacity) (packet : RouterPacket) (refused : PeerRefused packet) :
    PeerRefused (.copyConstruct raw packet) := by
  have lengths : (RouterPacket.copyConstruct raw packet).peerLength = packet.peerLength := rfl
  simp only [PeerRefused, RouterPacket.getPeerData, ite_eq_right_iff, reduceCtorEq, imp_false] at refused ⊢
  rwa [lengths]

end Kinds

namespace UdpRelay

variable {Addr : Type}

def PoppedProperly (relay : UdpRelay Addr) : Prop :=
  ∀ reply ∈ relay.popped, relay.WasHanded reply ↔ ¬ PeerRefused reply.packet

def Strands (relay : UdpRelay Addr) : RelayEvent → Prop
  | .frame raw packet => ∃ first second behind rest,
      relay.tcpPacketQueue ++ [relay.newReply raw packet] = first :: second :: behind :: rest ∧
      PeerRefused first.packet ∧ PeerRefused second.packet ∧ ¬ PeerRefused behind.packet
  | .sent _ _ => ∃ first second behind rest, relay.tcpPacketQueue = first :: second :: behind :: rest ∧
      PeerRefused second.packet ∧ ¬ PeerRefused behind.packet

def StrandsNone (relay : UdpRelay Addr) (event : RelayEvent) : Prop := ¬ relay.Strands event

variable [AsioAddress Addr]

def SafelyPops (relay : UdpRelay Addr) : Prop :=
  PoppedProperly relay ∧ ∀ index next, relay.step (.sent index false) = some next → PoppedProperly next

structure Settled (relay : UdpRelay Addr) : Prop where
  accounted : Accounted relay
  kinds : ∀ reply ∈ relay.tcpPacketQueue, Deliverable Addr reply ∨ PeerRefused reply.packet
  popped : PoppedProperly relay
  handed : ∀ send ∈ relay.handed, send.reply ∈ relay.popped ++ relay.tcpPacketQueue.take 1
  sendable : ∀ send ∈ relay.handed, ¬ PeerRefused send.reply.packet

def FrontReady (relay : UdpRelay Addr) : Prop :=
  ∀ reply ∈ relay.tcpPacketQueue.head?, ¬ PeerRefused reply.packet → relay.WasHanded reply

theorem settled_create : Settled (create : UdpRelay Addr) where
  accounted := accounted_create
  kinds := by simp [create]
  popped := by simp [PoppedProperly, create]
  handed := by simp [create]
  sendable := by simp [create]

theorem settled_push (relay : UdpRelay Addr) (raw : CharArray payloadCapacity) (packet : RouterPacket)
    (fits : WellFormed Addr packet ∨ PeerRefused packet) (settled : Settled relay) :
    Settled (relay.pushTcpPacket raw packet) where
  accounted := accounted_push relay raw packet settled.accounted
  kinds := by
    intro reply member
    rcases List.mem_append.mp member with old | new
    · exact settled.kinds reply old
    · rw [List.mem_singleton.mp new]
      exact fits.imp (well_formed_deliverable packet _ raw) (copy_refused raw packet)
  popped := settled.popped
  handed := by
    intro send member
    refine List.mem_append.mpr ((List.mem_append.mp (settled.handed send member)).imp_right fun front => ?_)
    cases queue : relay.tcpPacketQueue with
    | nil => simp [queue] at front
    | cons first rest => simpa [pushTcpPacket, queue] using front
  sendable := settled.sendable

theorem settled_finish (relay : UdpRelay Addr) (index : Nat) (settled : Settled relay) : Settled (relay.finishSend index) :=
  ⟨accounted_finish relay index settled.accounted, settled.kinds, settled.popped, settled.handed, settled.sendable⟩

theorem settled_pop (relay : UdpRelay Addr) (front : Reply) (rest : List Reply)
    (queue : relay.tcpPacketQueue = front :: rest) (ready : FrontReady relay) (settled : Settled relay) :
    Settled relay.popTcpPacket := by
  have accounted := accounted_pop relay settled.accounted
  rw [pop_cons relay front rest queue] at accounted ⊢
  refine ⟨accounted, fun reply member => settled.kinds reply (by simp [queue, member]), ?_, ?_, settled.sendable⟩
  · intro reply member
    rcases List.mem_append.mp member with old | new
    · exact settled.popped reply old
    · obtain rfl := List.mem_singleton.mp new
      refine ⟨?_, ready reply (by simp [queue])⟩
      rintro ⟨send, handed, rfl⟩
      exact settled.sendable send handed
  · intro send member
    have place := settled.handed send member
    simp only [queue, List.take_succ_cons, List.take_zero] at place
    exact List.mem_append_left _ place

theorem settled_send (relay : UdpRelay Addr) (front : Reply) (rest : List Reply) (send : SendTo Addr)
    (queue : relay.tcpPacketQueue = front :: rest) (same : send.reply = front) (deliverable : Deliverable Addr front)
    (settled : Settled relay) : Settled (relay.asyncSendTo send) where
  accounted := accounted_send relay send settled.accounted
  kinds := settled.kinds
  popped := by
    intro reply member
    have before := settled.popped reply member
    refine ⟨?_, fun accepted => was_handed_send relay send reply (before.mpr accepted)⟩
    rintro ⟨other, handed, rfl⟩
    rcases List.mem_append.mp handed with old | new
    · exact before.mp ⟨other, old, rfl⟩
    · rw [List.mem_singleton.mp new, same]
      exact deliverable_not_refused front deliverable
  handed := by
    intro other member
    rcases List.mem_append.mp member with old | new
    · exact settled.handed other old
    · simp [asyncSendTo, queue, List.mem_singleton.mp new, same]
  sendable := by
    intro other member
    rcases List.mem_append.mp member with old | new
    · exact settled.sendable other old
    · rw [List.mem_singleton.mp new, same]
      exact deliverable_not_refused front deliverable

theorem settled_deliver (relay next : UdpRelay Addr) (front : Reply) (rest : List Reply)
    (queue : relay.tcpPacketQueue = front :: rest) (settled : Settled relay) (delivered : relay.deliverFront = .ok next) :
    Settled next ∧
      ((PeerRefused front.packet ∧ next = relay.popTcpPacket) ∨
       (¬ PeerRefused front.packet ∧ ∃ send : SendTo Addr, send.reply = front ∧ next = relay.asyncSendTo send)) := by
  rcases deliver_cases relay next delivered with ⟨empty, _⟩ | ⟨other, tail, same, refused, rfl⟩ | ⟨other, tail, send, same, sent, rfl⟩
  · simp [queue] at empty
  · obtain ⟨rfl, rfl⟩ := List.cons.inj (queue.symm.trans same)
    have isRefused := (refused_address_iff front).mp refused
    have ready : FrontReady relay := by
      intro reply member accepted
      rw [queue] at member
      obtain rfl := Option.some.inj member
      exact absurd isRefused accepted
    exact ⟨settled_pop relay front rest queue ready settled, .inl ⟨isRefused, rfl⟩⟩
  · obtain ⟨rfl, rfl⟩ := List.cons.inj (queue.symm.trans same)
    have own := address_reply front send sent
    have deliverable : Deliverable Addr front := ⟨send, sent⟩
    exact ⟨settled_send relay front rest send queue own deliverable settled,
      .inr ⟨deliverable_not_refused front deliverable, send, own, rfl⟩⟩

omit [AsioAddress Addr] in
theorem sent_front_ready (relay : UdpRelay Addr) (front : Reply) (rest : List Reply) (send : SendTo Addr)
    (queue : relay.tcpPacketQueue = front :: rest) (same : send.reply = front) : FrontReady (relay.asyncSendTo send) := by
  intro reply member _
  have head : (relay.asyncSendTo send).tcpPacketQueue.head? = some front := by simp [asyncSendTo, queue]
  obtain rfl := Option.some.inj (head.symm.trans member)
  exact ⟨send, by simp [asyncSendTo], same⟩

theorem deliver_ready (relay next : UdpRelay Addr) (settled : Settled relay) (delivered : relay.deliverFront = .ok next)
    (unstranded : ∀ refused behind rest, relay.tcpPacketQueue = refused :: behind :: rest →
      PeerRefused refused.packet → PeerRefused behind.packet) :
    Settled next ∧ FrontReady next := by
  cases queue : relay.tcpPacketQueue with
  | nil =>
      obtain rfl := deliver_empty relay next queue delivered
      exact ⟨settled, by simp [FrontReady, queue]⟩
  | cons front rest =>
      obtain ⟨settledNext, ⟨refused, rfl⟩ | ⟨_, send, same, rfl⟩⟩ := settled_deliver relay next front rest queue settled delivered
      · refine ⟨settledNext, ?_⟩
        rw [pop_cons relay front rest queue]
        intro reply member accepted
        cases rest with
        | nil => cases member
        | cons behind others =>
            obtain rfl := Option.some.inj member
            exact absurd (unstranded front behind others queue refused) accepted
      · exact ⟨settledNext, sent_front_ready relay front rest send queue same⟩

theorem frame_ready (relay next : UdpRelay Addr) (raw : CharArray payloadCapacity) (packet : RouterPacket)
    (fits : WellFormed Addr packet ∨ PeerRefused packet) (settled : Settled relay)
    (allowed : relay.StrandsNone (.frame raw packet)) (stepped : relay.step (.frame raw packet) = some next) :
    Settled next ∧ FrontReady next := by
  have pushed := settled_push relay raw packet fits settled
  rcases frame_cases relay next raw packet stepped with ⟨empty, delivered⟩ | ⟨busy, middle, firstDelivered, secondDelivered⟩
  · apply deliver_ready _ next pushed delivered
    intro refused behind rest queue
    simp [pushTcpPacket, empty] at queue
  · cases old : relay.tcpPacketQueue with
    | nil => exact absurd old busy
    | cons front rest =>
        have queue := push_cons relay raw packet front rest old
        obtain ⟨settledMiddle, ⟨refused, rfl⟩ | ⟨accepted, send, _, rfl⟩⟩ :=
          settled_deliver _ middle front _ queue pushed firstDelivered
        · apply deliver_ready _ next settledMiddle secondDelivered
          intro second behind others middleQueue secondRefused
          by_contra accepted
          rw [pop_cons _ front _ queue] at middleQueue
          refine allowed ⟨front, second, behind, others, ?_, refused, secondRefused, accepted⟩
          exact queue.trans (congrArg (front :: ·) middleQueue)
        · apply deliver_ready _ next settledMiddle secondDelivered
          intro first behind others middleQueue firstRefused
          obtain ⟨rfl, _⟩ := List.cons.inj (queue.symm.trans middleQueue)
          exact absurd firstRefused accepted

theorem sent_ready (relay next : UdpRelay Addr) (index : Nat) (settled : Settled relay) (ready : FrontReady relay)
    (allowed : relay.StrandsNone (.sent index false)) (stepped : relay.step (.sent index false) = some next) :
    Settled next ∧ FrontReady next := by
  have finished := settled_finish relay index settled
  obtain ⟨_, _, ⟨failed, _⟩ | ⟨_, _, rfl⟩ | ⟨_, busy, delivered⟩⟩ := sent_cases relay next index false stepped
  · cases failed
  · exact ⟨finished, ready⟩
  · cases queue : relay.tcpPacketQueue with
    | nil => exact absurd queue busy
    | cons front rest =>
        have finishedQueue : (relay.finishSend index).tcpPacketQueue = front :: rest := queue
        have popped := settled_pop _ front rest finishedQueue ready finished
        apply deliver_ready _ next popped delivered
        intro refused behind others poppedQueue secondRefused
        by_contra accepted
        rw [pop_cons _ front rest finishedQueue] at poppedQueue
        exact allowed ⟨front, refused, behind, others, queue.trans (congrArg (front :: ·) poppedQueue), secondRefused, accepted⟩

-- Every offer of the front starts a send or shortens the queue, so the queue never gets
-- longer than the list of outstanding sends.
theorem deliver_gains (relay next : UdpRelay Addr) (busy : relay.tcpPacketQueue ≠ []) (delivered : relay.deliverFront = .ok next) :
    next.tcpPacketQueue.length + relay.outstanding.length + 1 = relay.tcpPacketQueue.length + next.outstanding.length := by
  rcases deliver_cases relay next delivered with ⟨empty, _⟩ | ⟨front, rest, queue, _, rfl⟩ | ⟨_, _, send, _, _, rfl⟩
  · exact absurd empty busy
  · rw [pop_cons relay front rest queue, queue]
    simp only [List.length_cons]
    omega
  · simp only [asyncSendTo, List.length_append, List.length_singleton]
    omega

def Backed (relay : UdpRelay Addr) : Prop := relay.tcpPacketQueue.length ≤ relay.outstanding.length

theorem backed_frame (relay next : UdpRelay Addr) (raw : CharArray payloadCapacity) (packet : RouterPacket)
    (backed : Backed relay) (stepped : relay.step (.frame raw packet) = some next) : Backed next := by
  have pushedLength : (relay.pushTcpPacket raw packet).tcpPacketQueue.length = relay.tcpPacketQueue.length + 1 := by
    simp [pushTcpPacket]
  have pushedOut : (relay.pushTcpPacket raw packet).outstanding = relay.outstanding := rfl
  have pushedBusy : (relay.pushTcpPacket raw packet).tcpPacketQueue ≠ [] := by simp [pushTcpPacket]
  unfold Backed at backed ⊢
  rcases frame_cases relay next raw packet stepped with ⟨_, delivered⟩ | ⟨busy, middle, firstDelivered, secondDelivered⟩
  · have gained := deliver_gains _ next pushedBusy delivered
    rw [pushedLength, pushedOut] at gained
    omega
  · have firstGained := deliver_gains _ middle pushedBusy firstDelivered
    rw [pushedLength, pushedOut] at firstGained
    by_cases empty : middle.tcpPacketQueue = []
    · simp [deliver_empty middle next empty secondDelivered, empty]
    · have secondGained := deliver_gains middle next empty secondDelivered
      omega

theorem backed_sent (relay next : UdpRelay Addr) (index : Nat) (backed : Backed relay)
    (stepped : relay.step (.sent index false) = some next) : Backed next := by
  unfold Backed at backed ⊢
  obtain ⟨_, found, ⟨failed, _⟩ | ⟨_, empty, rfl⟩ | ⟨_, busy, delivered⟩⟩ := sent_cases relay next index false stepped
  · cases failed
  · simp [finishSend, empty]
  · have bound := (List.getElem?_eq_some_iff.mp found).1
    have queueLength : (relay.finishSend index).popTcpPacket.tcpPacketQueue.length = relay.tcpPacketQueue.length - 1 := by
      simp [popTcpPacket, finishSend]
    have outLength : (relay.finishSend index).popTcpPacket.outstanding.length = relay.outstanding.length - 1 :=
      List.length_eraseIdx_of_lt bound
    by_cases empty : (relay.finishSend index).popTcpPacket.tcpPacketQueue = []
    · simp [deliver_empty _ next empty delivered, empty]
    · have gained := deliver_gains _ next empty delivered
      rw [queueLength, outLength] at gained
      have some := List.length_pos_iff.mpr busy
      omega

def Stranded (relay : UdpRelay Addr) : Prop :=
  ∃ behind rest, relay.tcpPacketQueue = behind :: rest ∧ ¬ PeerRefused behind.packet ∧ ¬ relay.WasHanded behind

theorem unsent_behind_front (relay : UdpRelay Addr) (front behind : Reply) (rest : List Reply)
    (queue : relay.tcpPacketQueue = front :: rest) (member : behind ∈ rest) (settled : Settled relay) :
    ¬ relay.WasHanded behind := by
  rintro ⟨send, handed, rfl⟩
  have place := settled.handed send handed
  have unique := accounted_nodup relay settled.accounted
  rw [queue, List.take_succ_cons, List.take_zero] at place
  rw [queue, show front :: rest = [front] ++ rest from rfl, ← List.append_assoc, List.map_append] at unique
  exact (List.nodup_append.mp unique).2.2 _ (List.mem_map_of_mem place) _ (List.mem_map_of_mem member) rfl

theorem settled_deliver_refused (relay next : UdpRelay Addr) (front : Reply) (rest : List Reply)
    (queue : relay.tcpPacketQueue = front :: rest) (refused : PeerRefused front.packet) (settled : Settled relay)
    (delivered : relay.deliverFront = .ok next) :
    Settled next ∧ next = { relay with tcpPacketQueue := rest, popped := relay.popped ++ [front] } := by
  obtain ⟨settledNext, ⟨_, rfl⟩ | ⟨accepted, _⟩⟩ := settled_deliver relay next front rest queue settled delivered
  · exact ⟨settledNext, pop_cons relay front rest queue⟩
  · exact absurd refused accepted

theorem frame_strands (relay next : UdpRelay Addr) (raw : CharArray payloadCapacity) (packet : RouterPacket)
    (fits : WellFormed Addr packet ∨ PeerRefused packet) (settled : Settled relay)
    (strands : relay.Strands (.frame raw packet)) (stepped : relay.step (.frame raw packet) = some next) :
    Settled next ∧ Stranded next := by
  have pushed := settled_push relay raw packet fits settled
  obtain ⟨first, second, behind, rest, shape, firstRefused, secondRefused, accepted⟩ := strands
  have queue : (relay.pushTcpPacket raw packet).tcpPacketQueue = first :: second :: behind :: rest := shape
  rcases frame_cases relay next raw packet stepped with ⟨empty, _⟩ | ⟨_, middle, firstDelivered, secondDelivered⟩
  · simp [empty] at shape
  · obtain ⟨settledMiddle, rfl⟩ := settled_deliver_refused _ middle first _ queue firstRefused pushed firstDelivered
    obtain ⟨settledNext, rfl⟩ := settled_deliver_refused _ next second _ rfl secondRefused settledMiddle secondDelivered
    have unsent := unsent_behind_front (relay.pushTcpPacket raw packet) first behind _ queue (by simp) pushed
    exact ⟨settledNext, behind, rest, rfl, accepted, unsent⟩

theorem sent_strands (relay next : UdpRelay Addr) (index : Nat) (settled : Settled relay) (ready : FrontReady relay)
    (strands : relay.Strands (.sent index false)) (stepped : relay.step (.sent index false) = some next) :
    Settled next ∧ Stranded next := by
  have finished := settled_finish relay index settled
  obtain ⟨first, second, behind, rest, shape, secondRefused, accepted⟩ := strands
  have queue : (relay.finishSend index).tcpPacketQueue = first :: second :: behind :: rest := shape
  obtain ⟨_, _, ⟨failed, _⟩ | ⟨_, empty, _⟩ | ⟨_, _, delivered⟩⟩ := sent_cases relay next index false stepped
  · cases failed
  · simp [empty] at shape
  · have popped := settled_pop _ first _ queue ready finished
    rw [pop_cons _ first _ queue] at popped delivered
    obtain ⟨settledNext, rfl⟩ := settled_deliver_refused _ next second _ rfl secondRefused popped delivered
    have unsent := unsent_behind_front (relay.finishSend index) first behind _ queue (by simp) finished
    exact ⟨settledNext, behind, rest, rfl, accepted, unsent⟩

theorem deliver_total (relay : UdpRelay Addr)
    (kinds : ∀ reply ∈ relay.tcpPacketQueue, Deliverable Addr reply ∨ PeerRefused reply.packet) :
    ∃ next, relay.deliverFront = .ok next := by
  cases queue : relay.tcpPacketQueue with
  | nil => exact ⟨relay, by simp [deliverFront, queue]⟩
  | cons front rest =>
      rcases kinds front (by simp [queue]) with ⟨send, addressed⟩ | refused
      · exact ⟨relay.asyncSendTo send, by simp [deliverFront, queue, addressed]⟩
      · exact ⟨relay.popTcpPacket, by simp [deliverFront, queue, (refused_address_iff front).mpr refused]⟩

theorem deliver_history (relay next : UdpRelay Addr) (delivered : relay.deliverFront = .ok next) :
    (∀ reply ∈ relay.popped, reply ∈ next.popped) ∧
      ∀ reply, next.WasHanded reply → relay.WasHanded reply ∨ reply ∈ relay.tcpPacketQueue := by
  rcases deliver_cases relay next delivered with ⟨_, rfl⟩ | ⟨_, _, _, _, rfl⟩ | ⟨front, rest, send, queue, sent, rfl⟩
  · exact ⟨fun _ member => member, fun _ => .inl⟩
  · exact ⟨fun _ member => List.mem_append_left _ member, fun _ => .inl⟩
  · refine ⟨fun _ member => member, ?_⟩
    rintro reply ⟨other, handed, rfl⟩
    rcases List.mem_append.mp handed with old | new
    · exact .inl ⟨other, old, rfl⟩
    · rw [List.mem_singleton.mp new, address_reply front send sent, queue]
      exact .inr (by simp)

-- As the queue is backed, a send is outstanding, and it pops the stranded frame when it
-- completes next.
theorem stranded_unsafe (relay : UdpRelay Addr) (settled : Settled relay) (backed : Backed relay) (stranded : Stranded relay) :
    ¬ SafelyPops relay := by
  obtain ⟨behind, rest, queue, accepted, unsent⟩ := stranded
  intro safe
  have outstanding : 0 < relay.outstanding.length := by
    rw [Backed, queue, List.length_cons] at backed
    omega
  have finishedQueue : (relay.finishSend 0).tcpPacketQueue = behind :: rest := queue
  have popped := pop_cons _ behind rest finishedQueue
  obtain ⟨next, delivered⟩ : ∃ next, (relay.finishSend 0).popTcpPacket.deliverFront = .ok next := by
    apply deliver_total
    rw [popped]
    exact fun reply member => settled.kinds reply (by rw [queue]; exact List.mem_cons_of_mem _ member)
  have stepped : relay.step (.sent 0 false) = some next := by
    have found : relay.outstanding[0]? = some (relay.outstanding.get ⟨0, outstanding⟩) := List.getElem?_eq_getElem outstanding
    simp [step, found, handleDeliverToUdpPeer, finishedQueue, deliverToUdpPeer, delivered, Except.toOption]
  obtain ⟨kept, origin⟩ := deliver_history _ next delivered
  rw [popped] at kept origin
  have handed := (safe.2 0 next stepped behind (kept behind (by simp))).mpr accepted
  rcases origin behind handed with sentBefore | queued
  · exact unsent sentBefore
  · have unique := accounted_nodup relay settled.accounted
    rw [queue, List.map_append, List.map_cons] at unique
    exact (List.nodup_cons.mp (List.nodup_append.mp unique).2.1).1 (List.mem_map_of_mem queued)

structure Orderly (relay : UdpRelay Addr) : Prop where
  settled : Settled relay
  ready : FrontReady relay
  backed : Backed relay

theorem orderly_create : Orderly (create : UdpRelay Addr) := ⟨settled_create, by simp [FrontReady, create], by simp [Backed, create]⟩

theorem backed_step (relay next : UdpRelay Addr) (event : RelayEvent) (fits : RefusedOrWellFormed Addr event)
    (backed : Backed relay) (stepped : relay.step event = some next) : Backed next := by
  cases event with
  | frame raw packet => exact backed_frame relay next raw packet backed stepped
  | sent index error =>
      obtain rfl : error = false := fits
      exact backed_sent relay next index backed stepped

theorem orderly_step (relay next : UdpRelay Addr) (event : RelayEvent) (fits : RefusedOrWellFormed Addr event)
    (orderly : Orderly relay) (allowed : relay.StrandsNone event) (stepped : relay.step event = some next) :
    Orderly next := by
  have backed := backed_step relay next event fits orderly.backed stepped
  cases event with
  | frame raw packet =>
      obtain ⟨settled, ready⟩ := frame_ready relay next raw packet fits orderly.settled allowed stepped
      exact ⟨settled, ready, backed⟩
  | sent index error =>
      obtain rfl : error = false := fits
      obtain ⟨settled, ready⟩ := sent_ready relay next index orderly.settled orderly.ready allowed stepped
      exact ⟨settled, ready, backed⟩

theorem strands_unsafe (relay next : UdpRelay Addr) (event : RelayEvent) (fits : RefusedOrWellFormed Addr event)
    (orderly : Orderly relay) (strands : relay.Strands event) (stepped : relay.step event = some next) :
    ¬ SafelyPops next := by
  have backed := backed_step relay next event fits orderly.backed stepped
  cases event with
  | frame raw packet =>
      obtain ⟨settled, stranded⟩ := frame_strands relay next raw packet fits orderly.settled strands stepped
      exact stranded_unsafe next settled backed stranded
  | sent index error =>
      obtain rfl : error = false := fits
      obtain ⟨settled, stranded⟩ := sent_strands relay next index orderly.settled orderly.ready strands stepped
      exact stranded_unsafe next settled backed stranded

-- Stranding is only noticed one step later, so the pop of a completion needs no guard.
theorem orderly_safe (relay : UdpRelay Addr) (orderly : Orderly relay) : SafelyPops relay := by
  refine ⟨orderly.settled.popped, fun index next stepped => ?_⟩
  by_cases strands : relay.Strands (.sent index false)
  · exact (sent_strands relay next index orderly.settled orderly.ready strands stepped).1.popped
  · exact (sent_ready relay next index orderly.settled orderly.ready strands stepped).1.popped

theorem refused_replies_harmless (events : List RelayEvent) (relay : UdpRelay Addr)
    (fits : ∀ event ∈ events, RefusedOrWellFormed Addr event) (ran : Machine.run step create events = some relay) :
    Machine.Always step SafelyPops (create : UdpRelay Addr) events ↔
      Machine.Guarded step StrandsNone (create : UdpRelay Addr) events :=
  Machine.always_iff_guarded (RefusedOrWellFormed Addr) StrandsNone Orderly SafelyPops orderly_safe
    (fun state event next fit orderly allowed => orderly_step state next event fit orderly allowed)
    (fun state event next fit orderly refused => strands_unsafe state next event fit orderly (not_not.mp refused))
    create relay events orderly_create fits ran

omit [AsioAddress Addr] in
theorem short_queue_strands_none (relay : UdpRelay Addr) (raw : CharArray payloadCapacity) (packet : RouterPacket)
    (short : relay.tcpPacketQueue.length < 2) : relay.StrandsNone (.frame raw packet) := by
  rintro ⟨first, second, behind, rest, shape, _⟩
  have lengths := congrArg List.length shape
  simp only [List.length_append, List.length_cons, List.length_nil] at lengths
  omega

omit [AsioAddress Addr] in
theorem short_sent_strands_none (relay : UdpRelay Addr) (index : Nat) (error : Bool)
    (short : relay.tcpPacketQueue.length < 3) : relay.StrandsNone (.sent index error) := by
  rintro ⟨first, second, behind, rest, shape, _⟩
  have lengths := congrArg List.length shape
  simp only [List.length_cons] at lengths
  omega

def refusedFrame : RouterPacket := ⟨5, 0, CharArray.zeroed⟩

def refusedThenSent : List RelayEvent :=
  [.frame CharArray.zeroed sampleFrame, .frame CharArray.zeroed refusedFrame, .sent 0 false]

def refusedBetween : List RelayEvent :=
  [.frame CharArray.zeroed sampleFrame, .frame CharArray.zeroed refusedFrame, .frame CharArray.zeroed sampleFrame,
    .sent 0 false, .sent 0 false]

theorem refused_then_sent_guarded : Machine.Guarded step StrandsNone (create : UdpRelay Ipv4) refusedThenSent := by
  refine ⟨short_queue_strands_none _ _ _ (by simp [create]), fun first firstStep => ⟨?_, fun second secondStep => ⟨?_, fun _ _ => trivial⟩⟩⟩
  · cases firstStep
    exact short_queue_strands_none _ _ _ (by decide)
  · cases firstStep
    cases secondStep
    exact short_sent_strands_none _ _ _ (by decide)

theorem refused_replies_harmless_behind_front :
    ∃ relay : UdpRelay Ipv4, Machine.run step create refusedThenSent = some relay ∧ relay.popped.length = 2 ∧
      Machine.Always step SafelyPops (create : UdpRelay Ipv4) refusedThenSent := by
  obtain ⟨relay, ran, popped⟩ : ∃ relay : UdpRelay Ipv4, Machine.run step create refusedThenSent = some relay ∧
      relay.popped.length = 2 := ⟨_, rfl, rfl⟩
  have fits : ∀ event ∈ refusedThenSent, RefusedOrWellFormed Ipv4 event := by
    have refused : PeerRefused refusedFrame := rfl
    simp [refusedThenSent, RefusedOrWellFormed, sample_frame_well_formed, refused]
  exact ⟨relay, ran, popped, (refused_replies_harmless refusedThenSent relay fits ran).mpr refused_then_sent_guarded⟩

theorem reply_behind_refused_lost :
    (∀ event ∈ refusedBetween, RefusedOrWellFormed Ipv4 event) ∧
    ∃ relay : UdpRelay Ipv4, Machine.run step create refusedBetween = some relay ∧ ¬ PoppedProperly relay := by
  have fits : ∀ event ∈ refusedBetween, RefusedOrWellFormed Ipv4 event := by
    have refused : PeerRefused refusedFrame := rfl
    simp [refusedBetween, RefusedOrWellFormed, sample_frame_well_formed, refused]
  obtain ⟨relay, ran, serials, last⟩ : ∃ relay : UdpRelay Ipv4, Machine.run step create refusedBetween = some relay ∧
      relay.handedSerials = [0, 0, 0, 0, 0] ∧
      (relay.popped[2]?.map fun reply => (reply.serial, reply.packet.getPeerData 128)) = some (2, some samplePeer.toText) :=
    ⟨_, rfl, rfl, by decide⟩
  refine ⟨fits, relay, ran, fun proper => ?_⟩
  obtain ⟨reply, found, same⟩ := Option.map_eq_some_iff.mp last
  have accepted : ¬ PeerRefused reply.packet := by
    rw [PeerRefused, (Prod.mk.inj same).2]
    simp
  obtain ⟨send, handed, rfl⟩ := (proper reply (List.mem_of_getElem? found)).mpr accepted
  have member : send.reply.serial ∈ relay.handedSerials := List.mem_map_of_mem handed
  rw [serials, (Prod.mk.inj same).1] at member
  simp at member

end UdpRelay

end Rart
