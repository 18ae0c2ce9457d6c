import Mathlib.Data.List.Nodup
import RamsesProxy.ReplyOrder

set_option autoImplicit false

namespace Rart

namespace UdpRelay

variable {Addr : Type}

-- The frame finds no other frame queued: add_tcp_packet's own delivery is not started.
def ArrivesOnEmpty (relay : UdpRelay Addr) : RelayEvent → Prop
  | .frame _ _ => relay.tcpPacketQueue = []
  | .sent _ _ => True

structure ExactlyOnce (relay : UdpRelay Addr) : Prop where
  inOrder : relay.handed.map SendTo.reply <+: relay.received
  unrepeated : relay.handedSerials.Nodup
  popped : ∀ reply ∈ relay.popped, relay.handedSerials.count reply.serial = 1

def Owned (relay : UdpRelay Addr) : Prop := ∀ send ∈ relay.outstanding, send.reply ∈ relay.tcpPacketQueue

-- Whichever send completes next, the packet its handler pops is its own, and no other
-- send of that packet is outstanding.
def PopsOwn (relay : UdpRelay Addr) : Prop :=
  ∀ index send, relay.outstanding[index]? = some send →
    relay.tcpPacketQueue.head? = some send.reply ∧
    ∀ other ∈ relay.outstanding.eraseIdx index, other.reply ≠ send.reply

variable [AsioAddress Addr]

structure AtMostOne (relay : UdpRelay Addr) : Prop where
  single : relay.tcpPacketQueue.length ≤ 1
  deliverable : ∀ reply ∈ relay.tcpPacketQueue, Deliverable Addr reply
  owned : relay.outstanding = [] ∨ relay.outstanding.map SendTo.reply = relay.tcpPacketQueue

theorem at_most_one_create : AtMostOne (create : UdpRelay Addr) := ⟨by simp [create], by simp [create], .inl rfl⟩

theorem at_most_one_outstanding (relay : UdpRelay Addr) (index : Nat) (send : SendTo Addr) (only : AtMostOne relay)
    (found : relay.outstanding[index]? = some send) :
    index = 0 ∧ relay.outstanding = [send] ∧ relay.tcpPacketQueue = [send.reply] := by
  have bound := (List.getElem?_eq_some_iff.mp found).1
  rcases only.owned with none | same
  · simp [none] at bound
  · have lengths : relay.outstanding.length = relay.tcpPacketQueue.length := by rw [← same, List.length_map]
    have single := only.single
    have first : index = 0 := by omega
    have one : relay.outstanding.length = 1 := by omega
    obtain ⟨other, isOther⟩ := List.length_eq_one_iff.mp one
    rw [isOther, first] at found
    obtain rfl : other = send := by simpa using found
    exact ⟨first, isOther, by rw [← same, isOther]; rfl⟩

theorem at_most_one_idle (relay : UdpRelay Addr) (only : AtMostOne relay) (empty : relay.tcpPacketQueue = []) :
    relay.outstanding = [] := by
  rcases only.owned with none | same
  · exact none
  · exact List.map_eq_nil_iff.mp (same.trans empty)

theorem at_most_one_frame (relay next : UdpRelay Addr) (raw : CharArray payloadCapacity) (packet : RouterPacket)
    (only : AtMostOne relay) (empty : relay.tcpPacketQueue = []) (stepped : relay.step (.frame raw packet) = some next) :
    AtMostOne next := by
  have idle := at_most_one_idle relay only empty
  have queue := push_empty relay raw packet empty
  have none : (relay.pushTcpPacket raw packet).outstanding = [] := idle
  rcases frame_cases relay next raw packet stepped with ⟨_, delivered⟩ | ⟨busy, _⟩
  · rcases deliver_cases _ next delivered with ⟨queueEmpty, _⟩ | ⟨front, rest, same, _, rfl⟩ | ⟨front, rest, send, same, sent, rfl⟩
    · simp [queue] at queueEmpty
    · rw [pop_cons _ _ _ queue]
      exact ⟨by simp, by simp, .inl none⟩
    · obtain ⟨rfl, rfl⟩ := List.cons.inj (queue.symm.trans same)
      have own := address_reply _ send sent
      refine ⟨by simp [asyncSendTo, queue], ?_, .inr (by simp [asyncSendTo, none, queue, own])⟩
      intro reply member
      rw [List.mem_singleton.mp (queue ▸ member : reply ∈ [relay.newReply raw packet])]
      exact ⟨send, sent⟩
  · exact absurd empty busy

theorem at_most_one_sent (relay next : UdpRelay Addr) (index : Nat) (error : Bool) (only : AtMostOne relay)
    (stepped : relay.step (.sent index error) = some next) : AtMostOne next := by
  obtain ⟨send, found, cases⟩ := sent_cases relay next index error stepped
  obtain ⟨rfl, out, queue⟩ := at_most_one_outstanding relay index send only found
  have none : (relay.finishSend 0).outstanding = [] := by simp [finishSend, out]
  rcases cases with ⟨_, rfl⟩ | ⟨_, _, rfl⟩ | ⟨rfl, _, _⟩
  · exact ⟨only.single, only.deliverable, .inl none⟩
  · exact ⟨only.single, only.deliverable, .inl none⟩
  · rcases sent_next relay next 0 send.reply [] queue (by simp) stepped with ⟨_, rfl⟩ | ⟨_, _, _, other, _⟩
    · rw [pop_cons (relay.finishSend 0) send.reply [] queue]
      exact ⟨by simp, by simp, .inl none⟩
    · cases other

theorem at_most_one_step (relay next : UdpRelay Addr) (event : RelayEvent) (only : AtMostOne relay)
    (allowed : relay.ArrivesOnEmpty event) (stepped : relay.step event = some next) : AtMostOne next := by
  cases event with
  | frame raw packet => exact at_most_one_frame relay next raw packet only allowed stepped
  | sent index error => exact at_most_one_sent relay next index error only stepped

theorem busy_frame_resends (relay next : UdpRelay Addr) (event : RelayEvent) (only : AtMostOne relay)
    (refused : ¬ relay.ArrivesOnEmpty event) (stepped : relay.step event = some next) :
    ∃ front, ∃ first second : SendTo Addr, relay.tcpPacketQueue = [front] ∧ first.reply = front ∧ second.reply = front ∧
      next.outstanding = relay.outstanding ++ [first, second] ∧ next.handed = relay.handed ++ [first, second] := by
  cases event with
  | sent index error => exact absurd trivial refused
  | frame raw packet =>
      have single := only.single
      have busy : relay.tcpPacketQueue ≠ [] := refused
      obtain ⟨front, queue⟩ := List.length_eq_one_iff.mp
        (show relay.tcpPacketQueue.length = 1 by have := List.length_pos_iff.mpr busy; omega)
      obtain ⟨first, second, sameFirst, sameSecond, rfl⟩ :=
        frame_busy relay next raw packet front [] queue (only.deliverable front (by simp [queue])) stepped
      exact ⟨front, first, second, queue, sameFirst, sameSecond, by simp [asyncSendTo, pushTcpPacket],
        by simp [asyncSendTo, pushTcpPacket]⟩

theorem at_most_one_owned (relay : UdpRelay Addr) (only : AtMostOne relay) : Owned relay ∧ PopsOwn relay := by
  refine ⟨fun send member => ?_, fun index send found => ?_⟩
  · obtain ⟨index, found⟩ := List.mem_iff_getElem?.mp member
    simp [(at_most_one_outstanding relay index send only found).2.2]
  · obtain ⟨rfl, out, queue⟩ := at_most_one_outstanding relay index send only found
    simp [out, queue]

def alternatingFrames : List RelayEvent :=
  [.frame CharArray.zeroed sampleFrame, .sent 0 false, .frame CharArray.zeroed sampleFrame, .sent 0 false]

def overlappingFrames : List RelayEvent :=
  [.frame CharArray.zeroed sampleFrame, .frame CharArray.zeroed sampleFrame]

theorem alternating_frames_guarded :
    Machine.Guarded step ArrivesOnEmpty (create : UdpRelay Ipv4) alternatingFrames := by
  refine ⟨rfl, fun first firstStep => ⟨trivial, fun second secondStep => ⟨?_, fun _ _ => ⟨trivial, fun _ _ => trivial⟩⟩⟩⟩
  cases firstStep
  cases secondStep
  rfl

theorem outstanding_sends_owned (events : List RelayEvent) (relay : UdpRelay Addr)
    (ran : Machine.run step create events = some relay) :
    Machine.Always step (fun state : UdpRelay Addr => Owned state ∧ PopsOwn state) create events ↔
      Machine.Guarded step ArrivesOnEmpty (create : UdpRelay Addr) events := by
  refine Machine.always_iff_guarded (fun _ => True) ArrivesOnEmpty AtMostOne _ at_most_one_owned
    (fun state event next _ only allowed => at_most_one_step state next event only allowed) ?_
    create relay events at_most_one_create (fun _ _ => trivial) ran
  intro state event next _ only refused stepped owned
  obtain ⟨front, first, second, queue, sameFirst, sameSecond, out, _⟩ :=
    busy_frame_resends state next event only refused stepped
  have found : next.outstanding[state.outstanding.length]? = some first := by simp [out]
  apply (owned.2 _ first found).2 second _ (sameSecond.trans sameFirst.symm)
  simp [out, List.eraseIdx_append_of_length_le]

theorem outstanding_sends_owned_alternating :
    ∃ relay : UdpRelay Ipv4, Machine.run step create alternatingFrames = some relay ∧
      Machine.Always step (fun state : UdpRelay Ipv4 => Owned state ∧ PopsOwn state) create alternatingFrames := by
  obtain ⟨relay, ran⟩ : ∃ relay : UdpRelay Ipv4, Machine.run step create alternatingFrames = some relay := ⟨_, rfl⟩
  exact ⟨relay, ran, (outstanding_sends_owned alternatingFrames relay ran).mpr alternating_frames_guarded⟩

omit [AsioAddress Addr] in
theorem owned_serials (relay : UdpRelay Addr) (owned : Owned relay) (serial : Nat)
    (member : serial ∈ relay.outstanding.map fun send => send.reply.serial) :
    serial ∈ relay.tcpPacketQueue.map Reply.serial := by
  obtain ⟨send, outstanding, rfl⟩ := List.mem_map.mp member
  exact List.mem_map.mpr ⟨send.reply, owned send outstanding, rfl⟩

theorem popped_packet_still_sending :
    ∃ relay : UdpRelay Ipv4, Machine.run step create (overlappingFrames ++ [.sent 0 false]) = some relay ∧
      ¬ Owned relay := by
  obtain ⟨relay, ran, sending, queued⟩ : ∃ relay : UdpRelay Ipv4,
      Machine.run step create (overlappingFrames ++ [.sent 0 false]) = some relay ∧
      (relay.outstanding.map fun send => send.reply.serial) = [0, 0, 1] ∧
      relay.tcpPacketQueue.map Reply.serial = [1] := ⟨_, rfl, rfl, rfl⟩
  refine ⟨relay, ran, fun owned => ?_⟩
  have member := owned_serials relay owned 0 (by simp [sending])
  simp [queued] at member

structure SentOnce (relay : UdpRelay Addr) : Prop where
  accounted : Accounted relay
  only : AtMostOne relay
  handed : relay.handed.map SendTo.reply = relay.received

theorem sent_once_create : SentOnce (create : UdpRelay Addr) := ⟨accounted_create, at_most_one_create, rfl⟩

theorem sent_once_step (relay next : UdpRelay Addr) (event : RelayEvent) (fits : WellFormedFrame Addr event)
    (once : SentOnce relay) (allowed : relay.ArrivesOnEmpty event) (stepped : relay.step event = some next) :
    SentOnce next := by
  refine ⟨accounted_step relay next event once.accounted stepped, at_most_one_step relay next event once.only allowed stepped, ?_⟩
  cases event with
  | frame raw packet =>
      obtain ⟨send, same, rfl⟩ :=
        frame_idle relay next raw packet allowed (well_formed_deliverable packet _ raw fits) stepped
      simp [asyncSendTo, pushTcpPacket, once.handed, same]
  | sent index error =>
      obtain ⟨send, found, ⟨_, rfl⟩ | ⟨_, _, rfl⟩ | ⟨rfl, _, _⟩⟩ := sent_cases relay next index error stepped
      · exact once.handed
      · exact once.handed
      · have queue := (at_most_one_outstanding relay index send once.only found).2.2
        rcases sent_next relay next index send.reply [] queue (by simp) stepped with ⟨_, rfl⟩ | ⟨_, _, _, other, _⟩
        · exact once.handed
        · cases other

theorem sent_once_exactly (relay : UdpRelay Addr) (once : SentOnce relay) : ExactlyOnce relay := by
  have serials : relay.handedSerials = relay.received.map Reply.serial := by
    rw [← once.handed, List.map_map]
    rfl
  have unrepeated : relay.handedSerials.Nodup := by
    rw [serials, once.accounted.numbered]
    exact List.nodup_range
  refine ⟨once.handed ▸ List.prefix_rfl, unrepeated, fun reply member => ?_⟩
  apply List.count_eq_one_of_mem unrepeated
  rw [serials, ← once.accounted.kept]
  exact List.mem_map_of_mem (by simp [member])

theorem replies_sent_once (events : List RelayEvent) (relay : UdpRelay Addr)
    (fits : ∀ event ∈ events, WellFormedFrame Addr event) (ran : Machine.run step create events = some relay) :
    Machine.Always step ExactlyOnce (create : UdpRelay Addr) events ↔
      Machine.Guarded step ArrivesOnEmpty (create : UdpRelay Addr) events := by
  refine Machine.always_iff_guarded (WellFormedFrame Addr) ArrivesOnEmpty SentOnce ExactlyOnce sent_once_exactly
    (fun state event next fit once allowed => sent_once_step state next event fit once allowed) ?_
    create relay events sent_once_create fits ran
  intro state event next _ once refused stepped exactly
  obtain ⟨front, first, second, _, sameFirst, sameSecond, _, handed⟩ :=
    busy_frame_resends state next event once.only refused stepped
  have unrepeated := exactly.unrepeated
  simp [handedSerials, handed, sameFirst, sameSecond, List.nodup_append] at unrepeated

theorem replies_sent_once_alternating :
    ∃ relay : UdpRelay Ipv4, Machine.run step create alternatingFrames = some relay ∧
      Machine.Always step ExactlyOnce (create : UdpRelay Ipv4) alternatingFrames := by
  obtain ⟨relay, ran⟩ : ∃ relay : UdpRelay Ipv4, Machine.run step create alternatingFrames = some relay := ⟨_, rfl⟩
  have fits : ∀ event ∈ alternatingFrames, WellFormedFrame Ipv4 event := by
    simp [alternatingFrames, WellFormedFrame, sample_frame_well_formed]
  exact ⟨relay, ran, (replies_sent_once alternatingFrames relay fits ran).mpr alternating_frames_guarded⟩

theorem reply_sent_three_times :
    (∀ event ∈ overlappingFrames, WellFormedFrame Ipv4 event) ∧
    ∃ relay : UdpRelay Ipv4, Machine.run step create overlappingFrames = some relay ∧
      relay.handedSerials = [0, 0, 0] ∧ ¬ ExactlyOnce relay := by
  refine ⟨by simp [overlappingFrames, WellFormedFrame, sample_frame_well_formed], ?_⟩
  obtain ⟨relay, ran, serials⟩ : ∃ relay : UdpRelay Ipv4, Machine.run step create overlappingFrames = some relay ∧
      relay.handedSerials = [0, 0, 0] := ⟨_, rfl, rfl⟩
  refine ⟨relay, ran, serials, fun exactly => ?_⟩
  have unrepeated := exactly.unrepeated
  simp [serials] at unrepeated

end UdpRelay

end Rart
