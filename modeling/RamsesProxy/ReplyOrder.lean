import RamsesProxy.UdpRelayServer

set_option autoImplicit false

namespace Rart

open CText Sequences

-- A reply frame as a well-behaved F1 server sends it. No longer frame gets past decode_header.
structure WellFormed (Addr : Type) [AsioAddress Addr] (packet : RouterPacket) : Prop where
  bounded : packet.payloadLength ≤ 1024
  peer : ∃ text ip port adr, packet.getPeerData 128 = some text ∧ splitAddr text 32 8 = some (ip, port) ∧
    AsioAddress.fromText ip = some (adr : Addr) ∧ AsioAddress.isV4 adr = true ∧
    port ≠ [] ∧ (∀ byte ∈ port, isDigit byte = true) ∧ digitsValue port ≤ 65535
  data : packet.peerLength.toNat + 4 ≤ packet.payloadLength.toNat

def samplePeer : AdrTuple Ipv4 := ⟨.udp, .ofOctets 1 2 3 4, 5⟩

def sampleFrame : RouterPacket := ((RouterPacket.create.setPeerData samplePeer.toText).setPacketData [65]).encodeHeader

theorem sample_frame_well_formed : WellFormed Ipv4 sampleFrame where
  bounded := by decide
  peer := ⟨samplePeer.toText, AsioAddress.toText samplePeer.adr, [53], samplePeer.adr, by decide, by decide, by decide, rfl,
    by simp, by simp [isDigit], by decide⟩
  data := by decide

def Deliverable (Addr : Type) [AsioAddress Addr] (reply : Reply) : Prop :=
  ∃ send : SendTo Addr, reply.address Addr = .ok (some send)

namespace UdpRelay

variable {Addr : Type}

def handedSerials (relay : UdpRelay Addr) : List Nat := relay.handed.map fun send => send.reply.serial

def WasHanded (relay : UdpRelay Addr) (reply : Reply) : Prop := ∃ send ∈ relay.handed, send.reply = reply

structure Accounted (relay : UdpRelay Addr) : Prop where
  kept : relay.popped ++ relay.tcpPacketQueue = relay.received
  numbered : relay.received.map Reply.serial = List.range relay.received.length

section Accounted

theorem accounted_create : Accounted (create : UdpRelay Addr) := ⟨rfl, rfl⟩

theorem accounted_push (relay : UdpRelay Addr) (raw : CharArray payloadCapacity) (packet : RouterPacket)
    (accounted : Accounted relay) : Accounted (relay.pushTcpPacket raw packet) where
  kept := by simp [pushTcpPacket, ← accounted.kept]
  numbered := by simp [pushTcpPacket, newReply, accounted.numbered, List.range_succ]

theorem accounted_pop (relay : UdpRelay Addr) (accounted : Accounted relay) : Accounted relay.popTcpPacket := by
  refine ⟨?_, accounted.numbered⟩
  cases queue : relay.tcpPacketQueue with
  | nil => simpa [popTcpPacket, queue] using accounted.kept
  | cons front rest => simpa [popTcpPacket, queue] using accounted.kept

theorem accounted_send (relay : UdpRelay Addr) (send : SendTo Addr) (accounted : Accounted relay) :
    Accounted (relay.asyncSendTo send) := ⟨accounted.kept, accounted.numbered⟩

theorem accounted_finish (relay : UdpRelay Addr) (index : Nat) (accounted : Accounted relay) :
    Accounted (relay.finishSend index) := ⟨accounted.kept, accounted.numbered⟩

theorem accounted_nodup (relay : UdpRelay Addr) (accounted : Accounted relay) :
    ((relay.popped ++ relay.tcpPacketQueue).map Reply.serial).Nodup := by
  rw [accounted.kept, accounted.numbered]
  exact List.nodup_range

variable [AsioAddress Addr]

theorem accounted_deliver (relay next : UdpRelay Addr) (accounted : Accounted relay)
    (delivered : relay.deliverFront = .ok next) : Accounted next := by
  rcases deliver_cases relay next delivered with ⟨_, rfl⟩ | ⟨_, _, _, _, rfl⟩ | ⟨_, _, send, _, _, rfl⟩
  · exact accounted
  · exact accounted_pop relay accounted
  · exact accounted_send relay send accounted

theorem accounted_step (relay next : UdpRelay Addr) (event : RelayEvent) (accounted : Accounted relay)
    (stepped : relay.step event = some next) : Accounted next := by
  cases event with
  | frame raw packet =>
      have pushed := accounted_push relay raw packet accounted
      rcases frame_cases relay next raw packet stepped with ⟨_, delivered⟩ | ⟨_, middle, first, second⟩
      · exact accounted_deliver _ next pushed delivered
      · exact accounted_deliver middle next (accounted_deliver _ middle pushed first) second
  | sent index error =>
      have finished := accounted_finish relay index accounted
      obtain ⟨_, _, ⟨_, rfl⟩ | ⟨_, _, rfl⟩ | ⟨_, _, delivered⟩⟩ := sent_cases relay next index error stepped
      · exact finished
      · exact finished
      · exact accounted_deliver _ next (accounted_pop _ finished) delivered

end Accounted

end UdpRelay

section Kinds

variable {Addr : Type} [AsioAddress Addr]

theorem well_formed_deliverable (packet : RouterPacket) (serial : Nat) (raw : CharArray payloadCapacity)
    (wellFormed : WellFormed Addr packet) : Deliverable Addr ⟨serial, .copyConstruct raw packet⟩ := by
  obtain ⟨text, ip, port, adr, read, cut, parsed, _⟩ := wellFormed.peer
  have copied : (RouterPacket.copyConstruct raw packet).getPeerData 128 = some text :=
    (RouterPacket.copy_peer_data _ packet 128 wellFormed.bounded wellFormed.data).trans read
  exact ⟨_, by simp only [Reply.address, copied, cut, parsed]; rfl⟩

theorem deliver_front_sent (relay next : UdpRelay Addr) (front : Reply) (rest : List Reply)
    (queue : relay.tcpPacketQueue = front :: rest) (deliverable : Deliverable Addr front)
    (delivered : relay.deliverFront = .ok next) :
    ∃ send : SendTo Addr, send.reply = front ∧ next = relay.asyncSendTo send := by
  obtain ⟨expected, addressed⟩ := deliverable
  rcases UdpRelay.deliver_cases relay next delivered with ⟨empty, _⟩ | ⟨other, tail, same, refused, _⟩ |
    ⟨other, tail, send, same, sent, rfl⟩
  · simp [queue] at empty
  · obtain ⟨rfl, rfl⟩ := List.cons.inj (queue.symm.trans same)
    rw [addressed] at refused
    cases refused
  · obtain ⟨rfl, rfl⟩ := List.cons.inj (queue.symm.trans same)
    exact ⟨send, address_reply front send sent, rfl⟩

namespace UdpRelay

theorem push_deliverable (relay : UdpRelay Addr) (raw : CharArray payloadCapacity) (packet : RouterPacket)
    (deliverable : ∀ reply ∈ relay.tcpPacketQueue, Deliverable Addr reply)
    (fresh : Deliverable Addr (relay.newReply raw packet)) :
    ∀ reply ∈ (relay.pushTcpPacket raw packet).tcpPacketQueue, Deliverable Addr reply := by
  intro reply member
  rcases List.mem_append.mp member with old | new
  · exact deliverable reply old
  · rw [List.mem_singleton.mp new]
    exact fresh

theorem frame_idle (relay next : UdpRelay Addr) (raw : CharArray payloadCapacity) (packet : RouterPacket)
    (empty : relay.tcpPacketQueue = []) (deliverable : Deliverable Addr (relay.newReply raw packet))
    (stepped : relay.step (.frame raw packet) = some next) :
    ∃ send : SendTo Addr, send.reply = relay.newReply raw packet ∧
      next = (relay.pushTcpPacket raw packet).asyncSendTo send := by
  have queue := push_empty relay raw packet empty
  rcases frame_cases relay next raw packet stepped with ⟨_, delivered⟩ | ⟨busy, _⟩
  · exact deliver_front_sent _ next _ [] queue deliverable delivered
  · exact absurd empty busy

theorem frame_busy (relay next : UdpRelay Addr) (raw : CharArray payloadCapacity) (packet : RouterPacket)
    (front : Reply) (rest : List Reply) (queue : relay.tcpPacketQueue = front :: rest)
    (deliverable : Deliverable Addr front) (stepped : relay.step (.frame raw packet) = some next) :
    ∃ first second : SendTo Addr, first.reply = front ∧ second.reply = front ∧
      next = ((relay.pushTcpPacket raw packet).asyncSendTo first).asyncSendTo second := by
  have pushed := push_cons relay raw packet front rest queue
  rcases frame_cases relay next raw packet stepped with ⟨empty, _⟩ | ⟨_, middle, firstDelivered, secondDelivered⟩
  · simp [queue] at empty
  · obtain ⟨first, sameFirst, rfl⟩ := deliver_front_sent _ middle front _ pushed deliverable firstDelivered
    obtain ⟨second, sameSecond, rfl⟩ :=
      deliver_front_sent ((relay.pushTcpPacket raw packet).asyncSendTo first) next front _ pushed deliverable secondDelivered
    exact ⟨first, second, sameFirst, sameSecond, rfl⟩

theorem sent_next (relay next : UdpRelay Addr) (index : Nat) (front : Reply) (rest : List Reply)
    (queue : relay.tcpPacketQueue = front :: rest) (deliverable : ∀ reply ∈ rest, Deliverable Addr reply)
    (stepped : relay.step (.sent index false) = some next) :
    (rest = [] ∧ next = (relay.finishSend index).popTcpPacket) ∨
    (∃ second others, ∃ send : SendTo Addr, rest = second :: others ∧ send.reply = second ∧
      next = (relay.finishSend index).popTcpPacket.asyncSendTo send) := by
  obtain ⟨_, _, ⟨failed, _⟩ | ⟨_, empty, _⟩ | ⟨_, _, delivered⟩⟩ := sent_cases relay next index false stepped
  · cases failed
  · simp [queue] at empty
  · have popped := pop_cons (relay.finishSend index) front rest queue
    cases rest with
    | nil =>
        rw [popped] at delivered ⊢
        cases delivered
        exact .inl ⟨rfl, rfl⟩
    | cons second others =>
        have moved : (relay.finishSend index).popTcpPacket.tcpPacketQueue = second :: others := by rw [popped]
        obtain ⟨send, same, sent⟩ := deliver_front_sent _ next second others moved (deliverable second (by simp)) delivered
        exact .inr ⟨second, others, send, rfl, same, sent⟩

end UdpRelay

end Kinds

def WellFormedFrame (Addr : Type) [AsioAddress Addr] : RelayEvent → Prop
  | .frame _ packet => WellFormed Addr packet
  | .sent _ _ => True

namespace UdpRelay

variable {Addr : Type} [AsioAddress Addr]

-- The front of the queue has been handed over, and the first hand-overs so far are
-- those of the popped frames and of the front.
structure Prompt (relay : UdpRelay Addr) : Prop where
  accounted : Accounted relay
  deliverable : ∀ reply ∈ relay.tcpPacketQueue, Deliverable Addr reply
  handedOver : ∀ reply ∈ relay.popped ++ relay.tcpPacketQueue.take 1, relay.WasHanded reply
  firsts : firstOccurrences relay.handedSerials = (relay.popped ++ relay.tcpPacketQueue.take 1).map Reply.serial

theorem prompt_create : Prompt (create : UdpRelay Addr) where
  accounted := accounted_create
  deliverable := by simp [create]
  handedOver := by simp [create]
  firsts := rfl

omit [AsioAddress Addr] in
theorem was_handed_send (relay : UdpRelay Addr) (send : SendTo Addr) (reply : Reply) (handed : relay.WasHanded reply) :
    (relay.asyncSendTo send).WasHanded reply := by
  obtain ⟨earlier, member, same⟩ := handed
  exact ⟨earlier, by simp [asyncSendTo, member], same⟩

theorem prompt_resend (relay : UdpRelay Addr) (front : Reply) (rest : List Reply) (send : SendTo Addr)
    (queue : relay.tcpPacketQueue = front :: rest) (same : send.reply = front) (prompt : Prompt relay) :
    Prompt (relay.asyncSendTo send) where
  accounted := accounted_send relay send prompt.accounted
  deliverable := prompt.deliverable
  handedOver reply member := was_handed_send relay send reply (prompt.handedOver reply member)
  firsts := by
    have seen : send.reply.serial ∈ firstOccurrences relay.handedSerials := by
      rw [prompt.firsts, queue, same]
      simp
    have serials : (relay.asyncSendTo send).handedSerials = relay.handedSerials ++ [send.reply.serial] := by
      simp [handedSerials, asyncSendTo]
    rw [serials, first_occurrences_repeat _ _ seen]
    exact prompt.firsts

theorem prompt_first_send (relay : UdpRelay Addr) (front : Reply) (rest : List Reply) (send : SendTo Addr)
    (queue : relay.tcpPacketQueue = front :: rest) (same : send.reply = front) (accounted : Accounted relay)
    (deliverable : ∀ reply ∈ relay.tcpPacketQueue, Deliverable Addr reply)
    (handedOver : ∀ reply ∈ relay.popped, relay.WasHanded reply)
    (firsts : firstOccurrences relay.handedSerials = relay.popped.map Reply.serial) :
    Prompt (relay.asyncSendTo send) where
  accounted := accounted_send relay send accounted
  deliverable := deliverable
  handedOver := by
    intro reply member
    simp only [asyncSendTo, queue, List.take_succ_cons, List.take_zero, List.mem_append, List.mem_singleton] at member
    rcases member with popped | rfl
    · exact was_handed_send relay send reply (handedOver reply popped)
    · exact ⟨send, by simp [asyncSendTo], same⟩
  firsts := by
    have unique := accounted_nodup relay accounted
    rw [queue, List.map_append, List.map_cons] at unique
    have unseen : send.reply.serial ∉ firstOccurrences relay.handedSerials := by
      rw [firsts, same]
      intro member
      exact (List.nodup_append.mp unique).2.2 _ member _ (by simp) rfl
    have serials : (relay.asyncSendTo send).handedSerials = relay.handedSerials ++ [send.reply.serial] := by
      simp [handedSerials, asyncSendTo]
    rw [serials, first_occurrences_new _ _ unseen, firsts]
    simp [asyncSendTo, queue, same]

theorem prompt_frame (relay next : UdpRelay Addr) (raw : CharArray payloadCapacity) (packet : RouterPacket)
    (wellFormed : WellFormed Addr packet) (prompt : Prompt relay) (stepped : relay.step (.frame raw packet) = some next) :
    Prompt next := by
  have accounted := accounted_push relay raw packet prompt.accounted
  have fresh : Deliverable Addr (relay.newReply raw packet) := well_formed_deliverable packet _ raw wellFormed
  have deliverable := push_deliverable relay raw packet prompt.deliverable fresh
  cases old : relay.tcpPacketQueue with
  | nil =>
      have queue := push_empty relay raw packet old
      obtain ⟨send, same, rfl⟩ := frame_idle relay next raw packet old fresh stepped
      have handedOver := prompt.handedOver
      have firsts := prompt.firsts
      simp only [old, List.take_nil, List.append_nil] at handedOver firsts
      exact prompt_first_send _ _ [] send queue same accounted deliverable handedOver firsts
  | cons front rest =>
      have queue := push_cons relay raw packet front rest old
      have pushed : Prompt (relay.pushTcpPacket raw packet) := by
        have handedOver := prompt.handedOver
        have firsts := prompt.firsts
        rw [old] at handedOver firsts
        refine ⟨accounted, deliverable, ?_, ?_⟩
        · rw [queue]
          exact handedOver
        · rw [queue]
          exact firsts
      obtain ⟨first, second, sameFirst, sameSecond, rfl⟩ :=
        frame_busy relay next raw packet front rest old (prompt.deliverable front (by simp [old])) stepped
      exact prompt_resend ((relay.pushTcpPacket raw packet).asyncSendTo first) front _ second queue sameSecond
        (prompt_resend _ front _ first queue sameFirst pushed)

theorem prompt_finish (relay : UdpRelay Addr) (index : Nat) (prompt : Prompt relay) : Prompt (relay.finishSend index) :=
  ⟨accounted_finish relay index prompt.accounted, prompt.deliverable, prompt.handedOver, prompt.firsts⟩

theorem prompt_sent (relay next : UdpRelay Addr) (index : Nat) (error : Bool) (prompt : Prompt relay)
    (stepped : relay.step (.sent index error) = some next) : Prompt next := by
  have finished := prompt_finish relay index prompt
  obtain ⟨_, _, ⟨_, rfl⟩ | ⟨_, _, rfl⟩ | ⟨rfl, busy, _⟩⟩ := sent_cases relay next index error stepped
  · exact finished
  · exact finished
  · cases queue : relay.tcpPacketQueue with
    | nil => exact absurd queue busy
    | cons front rest =>
        have accounted := accounted_pop _ finished.accounted
        have handedOver := finished.handedOver
        have firsts := finished.firsts
        have finishedQueue : (relay.finishSend index).tcpPacketQueue = front :: rest := queue
        have deliverable : ∀ reply ∈ rest, Deliverable Addr reply := fun reply member =>
          prompt.deliverable reply (by simp [queue, member])
        simp only [finishedQueue, List.take_succ_cons, List.take_zero] at handedOver firsts
        rw [pop_cons _ front rest finishedQueue] at accounted
        rcases sent_next relay next index front rest queue deliverable stepped with
          ⟨rfl, rfl⟩ | ⟨second, others, send, rfl, same, rfl⟩
        · rw [pop_cons _ front [] finishedQueue]
          refine ⟨accounted, by simp, ?_, ?_⟩
          · rw [List.take_nil, List.append_nil]
            exact handedOver
          · rw [List.take_nil, List.append_nil]
            exact firsts
        · rw [pop_cons _ front _ finishedQueue]
          exact prompt_first_send _ second others send rfl same accounted deliverable handedOver firsts

theorem prompt_step (relay next : UdpRelay Addr) (event : RelayEvent) (fits : WellFormedFrame Addr event)
    (prompt : Prompt relay) (stepped : relay.step event = some next) : Prompt next := by
  cases event with
  | frame raw packet => exact prompt_frame relay next raw packet fits prompt stepped
  | sent index error => exact prompt_sent relay next index error prompt stepped

structure NoReplySkipped (relay : UdpRelay Addr) : Prop where
  front : ∀ reply ∈ relay.tcpPacketQueue.head?, relay.WasHanded reply
  popped : ∀ reply ∈ relay.popped, relay.WasHanded reply
  order : firstOccurrences relay.handedSerials <+: relay.received.map Reply.serial

theorem prompt_not_skipped (relay : UdpRelay Addr) (prompt : Prompt relay) : NoReplySkipped relay where
  front := by
    intro reply member
    apply prompt.handedOver
    cases queue : relay.tcpPacketQueue with
    | nil => simp [queue] at member
    | cons front rest => simp_all
  popped reply member := prompt.handedOver reply (by simp [member])
  order := by
    refine ⟨(relay.tcpPacketQueue.drop 1).map Reply.serial, ?_⟩
    rw [prompt.firsts, ← List.map_append, List.append_assoc, List.take_append_drop, prompt.accounted.kept]

theorem replies_not_skipped (events : List RelayEvent) (relay : UdpRelay Addr)
    (fits : ∀ event ∈ events, WellFormedFrame Addr event) (ran : Machine.run step create events = some relay) :
    NoReplySkipped relay :=
  prompt_not_skipped relay (Machine.fitting_run_invariant (WellFormedFrame Addr) Prompt
    (fun state event next fit prompt => prompt_step state next event fit prompt) create relay events prompt_create fits ran)

def delayedFrames : List RelayEvent :=
  [.frame CharArray.zeroed sampleFrame, .frame CharArray.zeroed sampleFrame, .sent 0 true, .sent 0 false]

theorem replies_not_skipped_after_failure :
    ∃ relay : UdpRelay Ipv4, Machine.run step create delayedFrames = some relay ∧
      relay.handedSerials = [0, 0, 0, 1] ∧ NoReplySkipped relay := by
  obtain ⟨relay, ran, serials⟩ : ∃ relay : UdpRelay Ipv4, Machine.run step create delayedFrames = some relay ∧
      relay.handedSerials = [0, 0, 0, 1] := ⟨_, rfl, rfl⟩
  have fits : ∀ event ∈ delayedFrames, WellFormedFrame Ipv4 event := by
    simp [delayedFrames, WellFormedFrame, sample_frame_well_formed]
  exact ⟨relay, ran, serials, replies_not_skipped delayedFrames relay fits ran⟩

end UdpRelay

end Rart
