import RamsesProxy.ReplyOnce
import RamsesProxy.ReplyProgress

set_option autoImplicit false

namespace Rart

namespace UdpRelay

section Repeats

variable {Addr : Type}

def fronts (relay : UdpRelay Addr) : List Nat := (relay.popped ++ relay.tcpPacketQueue.take 1).map Reply.serial

def arrivesBehind (serial : Nat) (relay : UdpRelay Addr) (event : RelayEvent) (_next : UdpRelay Addr) : List Nat :=
  match event with
  | .frame _ _ => if relay.tcpPacketQueue.head?.map Reply.serial = some serial then [relay.received.length] else []
  | .sent _ _ => []

theorem handed_serials_send (relay : UdpRelay Addr) (send : SendTo Addr) :
    (relay.asyncSendTo send).handedSerials = relay.handedSerials ++ [send.reply.serial] := by
  simp [handedSerials, asyncSendTo]

variable [AsioAddress Addr]

def behind (Addr : Type) [AsioAddress Addr] (serial : Nat) (events : List RelayEvent) : List Nat :=
  Machine.outputs step (arrivesBehind serial) (create : UdpRelay Addr) events

structure Repeats (events : List RelayEvent) (relay : UdpRelay Addr) : Prop where
  prompt : Prompt relay
  counts : ∀ serial, relay.handedSerials.count serial = relay.fronts.count serial + 2 * (behind Addr serial events).length

section Step

variable (events : List RelayEvent) (relay next : UdpRelay Addr) (event : RelayEvent)

theorem behind_snoc (serial : Nat) (ran : Machine.run step create events = some relay) (stepped : relay.step event = some next) :
    behind Addr serial (events ++ [event]) = behind Addr serial events ++ arrivesBehind serial relay event next :=
  Machine.outputs_snoc (arrivesBehind serial) create relay next events event ran stepped

theorem repeats_frame (raw : CharArray payloadCapacity) (packet : RouterPacket) (wellFormed : WellFormed Addr packet)
    (ran : Machine.run step create events = some relay) (repeats : Repeats events relay)
    (stepped : relay.step (.frame raw packet) = some next) (serial : Nat) :
    next.handedSerials.count serial =
      next.fronts.count serial + 2 * (behind Addr serial (events ++ [.frame raw packet])).length := by
  have counts := repeats.counts serial
  rw [behind_snoc events relay next _ serial ran stepped]
  cases queue : relay.tcpPacketQueue with
  | nil =>
      have fresh : Deliverable Addr (relay.newReply raw packet) := well_formed_deliverable packet _ raw wellFormed
      obtain ⟨send, same, rfl⟩ := frame_idle relay next raw packet queue fresh stepped
      have before : relay.fronts = relay.popped.map Reply.serial := by simp [fronts, queue]
      have after : ((relay.pushTcpPacket raw packet).asyncSendTo send).fronts =
          relay.popped.map Reply.serial ++ [send.reply.serial] := by
        simp [fronts, asyncSendTo, pushTcpPacket, queue, same]
      rw [handed_serials_send, after, List.count_append, List.count_append, ← before]
      simp only [arrivesBehind, queue, List.head?_nil, Option.map_none, reduceCtorEq, if_false, List.append_nil]
      have pushed : (relay.pushTcpPacket raw packet).handedSerials = relay.handedSerials := rfl
      rw [pushed, counts]
      omega
  | cons front rest =>
      obtain ⟨first, second, sameFirst, sameSecond, rfl⟩ :=
        frame_busy relay next raw packet front rest queue (repeats.prompt.deliverable front (by simp [queue])) stepped
      have after : (((relay.pushTcpPacket raw packet).asyncSendTo first).asyncSendTo second).fronts = relay.fronts := by
        simp [fronts, asyncSendTo, pushTcpPacket, queue]
      rw [handed_serials_send, handed_serials_send, after, sameFirst, sameSecond]
      have pushed : (relay.pushTcpPacket raw packet).handedSerials = relay.handedSerials := rfl
      simp only [pushed, arrivesBehind, queue, List.head?_cons, Option.map_some, Option.some.injEq, List.count_append,
        List.length_append]
      by_cases here : front.serial = serial
      · simp only [here, List.count_singleton_self, if_true, List.length_singleton]
        omega
      · simp only [if_neg here, List.count_singleton, beq_iff_eq, List.length_nil]
        omega

theorem repeats_sent (index : Nat) (error : Bool) (ran : Machine.run step create events = some relay)
    (repeats : Repeats events relay) (stepped : relay.step (.sent index error) = some next) (serial : Nat) :
    next.handedSerials.count serial =
      next.fronts.count serial + 2 * (behind Addr serial (events ++ [.sent index error])).length := by
  have counts := repeats.counts serial
  rw [behind_snoc events relay next _ serial ran stepped]
  simp only [arrivesBehind, List.append_nil]
  obtain ⟨_, _, outcome⟩ := sent_cases relay next index error stepped
  rcases outcome with ⟨_, rfl⟩ | ⟨_, _, rfl⟩ | ⟨rfl, busy, _⟩
  · exact counts
  · exact counts
  · cases queue : relay.tcpPacketQueue with
    | nil => exact absurd queue busy
    | cons front rest =>
        have finished : (relay.finishSend index).tcpPacketQueue = front :: rest := queue
        have popped := pop_cons (relay.finishSend index) front rest finished
        have before : relay.fronts = relay.popped.map Reply.serial ++ [front.serial] := by simp [fronts, queue]
        have deliverable : ∀ reply ∈ rest, Deliverable Addr reply := fun reply member =>
          repeats.prompt.deliverable reply (by simp [queue, member])
        rcases sent_next relay next index front rest queue deliverable stepped with
          ⟨rfl, rfl⟩ | ⟨second, others, send, rfl, same, rfl⟩
        · have after : (relay.finishSend index).popTcpPacket.fronts = relay.fronts := by
            rw [popped, before]
            simp [fronts, finishSend]
          have handed : (relay.finishSend index).popTcpPacket.handedSerials = relay.handedSerials := rfl
          rw [after, handed]
          exact counts
        · have after : ((relay.finishSend index).popTcpPacket.asyncSendTo send).fronts = relay.fronts ++ [send.reply.serial] := by
            rw [popped, before]
            simp [fronts, asyncSendTo, finishSend, same]
          have handed : (relay.finishSend index).popTcpPacket.handedSerials = relay.handedSerials := rfl
          rw [handed_serials_send, after, handed, List.count_append, List.count_append, counts]
          omega

theorem repeats_step (fits : WellFormedFrame Addr event) (ran : Machine.run step create events = some relay)
    (repeats : Repeats events relay) (stepped : relay.step event = some next) : Repeats (events ++ [event]) next := by
  refine ⟨prompt_step relay next event fits repeats.prompt stepped, ?_⟩
  cases event with
  | frame raw packet => exact repeats_frame events relay next raw packet fits ran repeats stepped
  | sent index error => exact repeats_sent events relay next index error ran repeats stepped

end Step

theorem repeats_run (events : List RelayEvent) (relay : UdpRelay Addr) (fits : ∀ event ∈ events, WellFormedFrame Addr event)
    (ran : Machine.run step create events = some relay) : Repeats events relay := by
  refine Machine.run_history (fun events relay => (∀ event ∈ events, WellFormedFrame Addr event) → Repeats events relay)
    create ?_ ?_ events relay ran fits
  · intro _
    exact ⟨prompt_create, fun serial => rfl⟩
  · intro before state event next ranBefore repeats stepped all
    refine repeats_step before state next event (all event (by simp)) ranBefore (repeats fun other member => ?_) stepped
    exact all other (by simp [member])

-- A frame is handed to the socket once when it comes to the front, and two times more
-- for every frame that arrives while it is there.
theorem replies_repeated (events : List RelayEvent) (relay : UdpRelay Addr)
    (fits : ∀ event ∈ events, WellFormedFrame Addr event) (ran : Machine.run step create events = some relay)
    (reply : Reply) (received : reply ∈ relay.received) :
    relay.handedSerials.count reply.serial =
      if reply.serial ∈ (relay.tcpPacketQueue.drop 1).map Reply.serial then 0
      else 1 + 2 * (behind Addr reply.serial events).length := by
  have repeats := repeats_run events relay fits ran
  have accounted := repeats.prompt.accounted
  have split : relay.received.map Reply.serial = relay.fronts ++ (relay.tcpPacketQueue.drop 1).map Reply.serial := by
    rw [fronts, ← List.map_append, List.append_assoc, List.take_append_drop, accounted.kept]
  have unique : (relay.fronts ++ (relay.tcpPacketQueue.drop 1).map Reply.serial).Nodup := by
    rw [← split, accounted.numbered]
    exact List.nodup_range
  obtain ⟨frontsUnique, _, apart⟩ := List.nodup_append.mp unique
  by_cases waiting : reply.serial ∈ (relay.tcpPacketQueue.drop 1).map Reply.serial
  · rw [if_pos waiting, List.count_eq_zero]
    intro handed
    have front := Sequences.mem_first_occurrences _ _ handed
    rw [repeats.prompt.firsts] at front
    exact apart reply.serial front reply.serial waiting rfl
  · have member : reply.serial ∈ relay.fronts ++ (relay.tcpPacketQueue.drop 1).map Reply.serial :=
      split ▸ List.mem_map_of_mem received
    have front : reply.serial ∈ relay.fronts := (List.mem_append.mp member).resolve_right waiting
    rw [if_neg waiting, repeats.counts, List.count_eq_one_of_mem frontsUnique front]

theorem replies_repeated_delayed :
    ∃ (relay : UdpRelay Ipv4) (first : Reply), Machine.run step create delayedFrames = some relay ∧ first ∈ relay.received ∧
      first.serial = 0 ∧ relay.handedSerials.count 0 = 1 + 2 * (behind Ipv4 0 delayedFrames).length := by
  obtain ⟨relay, first, ran, received, serial, waiting⟩ : ∃ (relay : UdpRelay Ipv4) (first : Reply),
      Machine.run step create delayedFrames = some relay ∧ relay.received[0]? = some first ∧ first.serial = 0 ∧
      (relay.tcpPacketQueue.drop 1).map Reply.serial = [] := ⟨_, _, rfl, rfl, rfl, rfl⟩
  have member := List.mem_of_getElem? received
  have fits : ∀ event ∈ delayedFrames, WellFormedFrame Ipv4 event := by
    simp [delayedFrames, WellFormedFrame, sample_frame_well_formed]
  have count := replies_repeated delayedFrames relay fits ran first member
  rw [waiting, serial, if_neg (by simp)] at count
  exact ⟨relay, first, ran, member, serial, count⟩

end Repeats

section Drain

variable {Addr : Type}

def isDelivered : RelayEvent → Prop
  | .sent _ false => True
  | .sent _ true | .frame _ _ => False

structure Drained (relay later : UdpRelay Addr) (count : Nat) : Prop where
  queue : later.tcpPacketQueue = relay.tcpPacketQueue.drop count
  popped : later.popped = relay.popped ++ relay.tcpPacketQueue.take count
  handed : later.handed.map SendTo.reply = relay.handed.map SendTo.reply ++ (relay.tcpPacketQueue.drop 1).take count
  received : later.received = relay.received

theorem drained_refl (relay : UdpRelay Addr) : Drained relay relay 0 where
  queue := rfl
  popped := by simp
  handed := by simp
  received := rfl

theorem drained_trans (relay middle later : UdpRelay Addr) (count : Nat) (first : Drained relay middle 1)
    (rest : Drained middle later count) : Drained relay later (count + 1) where
  queue := by rw [rest.queue, first.queue, List.drop_drop, Nat.add_comm]
  popped := by
    rw [rest.popped, first.popped, first.queue, List.append_assoc]
    congr 1
    rw [Nat.add_comm, List.take_add]
  handed := by
    rw [rest.handed, first.handed, first.queue, List.append_assoc]
    congr 1
    rw [Nat.add_comm, List.take_add]
  received := rest.received.trans first.received

variable [AsioAddress Addr]

theorem drained_step (relay next : UdpRelay Addr) (event : RelayEvent)
    (deliverable : ∀ reply ∈ relay.tcpPacketQueue, Deliverable Addr reply)
    (success : isDelivered event) (stepped : relay.step event = some next) : Drained relay next 1 := by
  cases event with
  | frame raw packet => cases success
  | sent index error =>
      obtain ⟨_, _, outcome⟩ := sent_cases relay next index error stepped
      rcases outcome with ⟨rfl, _⟩ | ⟨_, empty, rfl⟩ | ⟨rfl, busy, _⟩
      · cases success
      · constructor <;> simp [finishSend, empty]
      · cases queue : relay.tcpPacketQueue with
        | nil => exact absurd queue busy
        | cons front rest =>
            have popped := pop_cons (relay.finishSend index) front rest queue
            rcases sent_next relay next index front rest queue (fun reply member => deliverable reply (by simp [queue, member]))
              stepped with ⟨rfl, rfl⟩ | ⟨second, others, send, rfl, same, rfl⟩
            · rw [popped]
              constructor <;> simp [finishSend, queue]
            · rw [popped]
              constructor <;> simp [asyncSendTo, finishSend, queue, same]

-- Once frames stop coming and sends stop failing, every send that ends takes the front
-- out, the next frame is sent once, and this goes on to the end of the queue.
theorem drained_run (relay later : UdpRelay Addr) (events : List RelayEvent) (moving : Moving relay)
    (success : ∀ event ∈ events, isDelivered event) (ran : Machine.run step relay events = some later) :
    Moving later ∧ Drained relay later events.length := by
  induction events generalizing relay with
  | nil =>
      cases ran
      exact ⟨moving, drained_refl _⟩
  | cons event rest ih =>
      obtain ⟨next, stepped, continued⟩ := Machine.run_cons_some relay later event rest ran
      have here := success event (by simp)
      have first := drained_step relay next event moving.deliverable here stepped
      have kept : Moving next := by
        cases event with
        | frame raw packet => cases here
        | sent index error =>
            cases error with
            | true => cases here
            | false => exact moving_sent relay next index false moving (fun failed => by cases failed) stepped
      obtain ⟨laterMoving, drained⟩ := ih next kept (fun other member => success other (by simp [member])) continued
      exact ⟨laterMoving, drained_trans relay next later rest.length first drained⟩

theorem sent_enabled (relay : UdpRelay Addr) (moving : Moving relay) (busy : relay.tcpPacketQueue ≠ []) :
    ∃ next, relay.step (.sent 0 false) = some next := by
  cases sending : relay.outstanding with
  | nil => exact absurd sending (moving.sending busy)
  | cons send others =>
      cases queue : relay.tcpPacketQueue with
      | nil => exact absurd queue busy
      | cons front rest =>
          have popped := pop_cons (relay.finishSend 0) front rest queue
          have finished : (relay.finishSend 0).tcpPacketQueue = front :: rest := queue
          simp only [step, sending, List.getElem?_cons_zero, handleDeliverToUdpPeer, Bool.false_eq_true, if_false, finished,
            List.isEmpty_cons, if_true, deliverToUdpPeer, popped, deliverFront]
          cases rest with
          | nil => exact ⟨_, rfl⟩
          | cons second tail =>
              obtain ⟨next, addressed⟩ := moving.deliverable second (by simp [queue])
              simp only [addressed]
              exact ⟨_, rfl⟩

-- The replies that wait when frames stop coming and sends stop failing are each sent
-- once more, in order, and the queue runs empty.
theorem replies_drain (before events : List RelayEvent) (relay later : UdpRelay Addr)
    (fits : ∀ event ∈ before, WellFormedFrame Addr event) (ranBefore : Machine.run step create before = some relay)
    (keeps : Machine.Guarded step KeepsSending (create : UdpRelay Addr) before) (success : ∀ event ∈ events, isDelivered event)
    (ran : Machine.run step relay events = some later) :
    Drained relay later events.length ∧
      (later.tcpPacketQueue ≠ [] → ∃ next, later.step (.sent 0 false) = some next) ∧
      (later.tcpPacketQueue = [] → later.popped = relay.received) := by
  have moving : Moving relay :=
    Machine.guarded_run_invariant (WellFormedFrame Addr) KeepsSending Moving
      (fun state event next fit moving allowed => moving_step state next event fit moving allowed) create relay before
      moving_create fits keeps ranBefore
  have accounted : Accounted relay := Machine.run_invariant Accounted
    (fun state event next accounted stepped => accounted_step state next event accounted stepped) create relay before
    accounted_create ranBefore
  obtain ⟨laterMoving, drained⟩ := drained_run relay later events moving success ran
  refine ⟨drained, sent_enabled later laterMoving, fun empty => ?_⟩
  have none := drained.queue.symm.trans empty
  rw [drained.popped, ← accounted.kept, List.take_of_length_le (List.drop_eq_nil_iff.mp none)]

theorem replies_drain_delayed :
    ∃ relay later : UdpRelay Ipv4, Machine.run step create delayedFrames = some relay ∧
      Machine.run step relay [.sent 0 false] = some later ∧ relay.tcpPacketQueue.length = 1 ∧ later.tcpPacketQueue = [] ∧
      later.popped = relay.received := by
  obtain ⟨relay, later, ran, ranLater, waiting, empty⟩ : ∃ relay later : UdpRelay Ipv4,
      Machine.run step create delayedFrames = some relay ∧ Machine.run step relay [.sent 0 false] = some later ∧
      relay.tcpPacketQueue.length = 1 ∧ later.tcpPacketQueue = [] := ⟨_, _, rfl, rfl, rfl, rfl⟩
  have fits : ∀ event ∈ delayedFrames, WellFormedFrame Ipv4 event := by
    simp [delayedFrames, WellFormedFrame, sample_frame_well_formed]
  obtain ⟨_, _, whole⟩ := replies_drain delayedFrames [.sent 0 false] relay later fits ran delayed_frames_guarded
    (by simp [isDelivered]) ranLater
  exact ⟨relay, later, ran, ranLater, waiting, empty, whole empty⟩

end Drain

end UdpRelay

end Rart
