import RamsesProxy.ReplyOrder

set_option autoImplicit false

namespace Rart

namespace UdpRelay

section Stall

variable {Addr : Type}

def NoStall (relay : UdpRelay Addr) : Prop := relay.tcpPacketQueue ≠ [] → relay.outstanding ≠ []

def KeepsSending (relay : UdpRelay Addr) : RelayEvent → Prop
  | .frame _ _ => True
  | .sent _ error => error = true → relay.tcpPacketQueue ≠ [] → 2 ≤ relay.outstanding.length

variable [AsioAddress Addr]

structure Moving (relay : UdpRelay Addr) : Prop where
  deliverable : ∀ reply ∈ relay.tcpPacketQueue, Deliverable Addr reply
  sending : NoStall relay

theorem moving_create : Moving (create : UdpRelay Addr) := ⟨by simp [create], by simp [NoStall, create]⟩

omit [AsioAddress Addr] in
theorem no_stall_send (relay : UdpRelay Addr) (send : SendTo Addr) : NoStall (relay.asyncSendTo send) := by
  intro _
  simp [asyncSendTo]

theorem moving_frame (relay next : UdpRelay Addr) (raw : CharArray payloadCapacity) (packet : RouterPacket)
    (wellFormed : WellFormed Addr packet) (moving : Moving relay) (stepped : relay.step (.frame raw packet) = some next) :
    Moving next := by
  have fresh : Deliverable Addr (relay.newReply raw packet) := well_formed_deliverable packet _ raw wellFormed
  have deliverable := push_deliverable relay raw packet moving.deliverable fresh
  cases queue : relay.tcpPacketQueue with
  | nil =>
      obtain ⟨send, _, rfl⟩ := frame_idle relay next raw packet queue fresh stepped
      exact ⟨deliverable, no_stall_send _ send⟩
  | cons front rest =>
      obtain ⟨first, second, _, _, rfl⟩ :=
        frame_busy relay next raw packet front rest queue (moving.deliverable front (by simp [queue])) stepped
      exact ⟨deliverable, no_stall_send _ second⟩

theorem moving_sent (relay next : UdpRelay Addr) (index : Nat) (error : Bool) (moving : Moving relay)
    (allowed : relay.KeepsSending (.sent index error)) (stepped : relay.step (.sent index error) = some next) :
    Moving next := by
  obtain ⟨send, found, ⟨rfl, rfl⟩ | ⟨_, empty, rfl⟩ | ⟨rfl, busy, _⟩⟩ := sent_cases relay next index error stepped
  · refine ⟨moving.deliverable, fun busy none => ?_⟩
    have enough := allowed rfl busy
    have bound := (List.getElem?_eq_some_iff.mp found).1
    have left : (relay.outstanding.eraseIdx index).length = 0 := List.length_eq_zero_iff.mpr none
    rw [List.length_eraseIdx_of_lt bound] at left
    omega
  · exact ⟨moving.deliverable, fun busy => absurd empty busy⟩
  · cases queue : relay.tcpPacketQueue with
    | nil => exact absurd queue busy
    | cons front rest =>
        have finishedQueue : (relay.finishSend index).tcpPacketQueue = front :: rest := queue
        have deliverable : ∀ reply ∈ rest, Deliverable Addr reply := fun reply member =>
          moving.deliverable reply (by simp [queue, member])
        rcases sent_next relay next index front rest queue deliverable stepped with
          ⟨rfl, rfl⟩ | ⟨second, others, next, rfl, _, rfl⟩
        · rw [pop_cons _ front [] finishedQueue]
          exact ⟨by simp, by simp [NoStall]⟩
        · rw [pop_cons _ front _ finishedQueue]
          exact ⟨deliverable, no_stall_send _ next⟩

theorem moving_step (relay next : UdpRelay Addr) (event : RelayEvent) (fits : WellFormedFrame Addr event)
    (moving : Moving relay) (allowed : relay.KeepsSending event) (stepped : relay.step event = some next) :
    Moving next := by
  cases event with
  | frame raw packet => exact moving_frame relay next raw packet fits moving stepped
  | sent index error => exact moving_sent relay next index error moving allowed stepped

-- The error branch neither sends the front again nor gives it up.
theorem failed_last_send_stalls (relay next : UdpRelay Addr) (event : RelayEvent) (refused : ¬ relay.KeepsSending event)
    (stepped : relay.step event = some next) : ¬ NoStall next := by
  cases event with
  | frame raw packet => exact absurd trivial refused
  | sent index error =>
      simp only [KeepsSending, Classical.not_imp, Nat.not_le] at refused
      obtain ⟨rfl, busy, few⟩ := refused
      obtain ⟨send, found, ⟨_, rfl⟩ | ⟨failed, _⟩ | ⟨failed, _⟩⟩ := sent_cases relay next index true stepped
      · have bound := (List.getElem?_eq_some_iff.mp found).1
        have left : (relay.outstanding.eraseIdx index).length = 0 := by
          rw [List.length_eraseIdx_of_lt bound]
          omega
        exact fun sending => sending busy (List.length_eq_zero_iff.mp left)
      · cases failed
      · cases failed

theorem reply_queue_moving (events : List RelayEvent) (relay : UdpRelay Addr)
    (fits : ∀ event ∈ events, WellFormedFrame Addr event) (ran : Machine.run step create events = some relay) :
    Machine.Always step NoStall (create : UdpRelay Addr) events ↔
      Machine.Guarded step KeepsSending (create : UdpRelay Addr) events :=
  Machine.always_iff_guarded (WellFormedFrame Addr) KeepsSending Moving NoStall (fun _ moving => moving.sending)
    (fun state event next fit moving allowed => moving_step state next event fit moving allowed)
    (fun state event next _ _ refused => failed_last_send_stalls state next event refused)
    create relay events moving_create fits ran

theorem delayed_frames_guarded : Machine.Guarded step KeepsSending (create : UdpRelay Ipv4) delayedFrames := by
  refine ⟨trivial, fun first firstStep => ⟨trivial, fun second secondStep => ⟨?_, fun _ _ => ⟨?_, fun _ _ => trivial⟩⟩⟩⟩
  · cases firstStep
    cases secondStep
    intro _ _
    decide
  · intro failed
    cases failed

theorem reply_queue_moving_delayed :
    ∃ relay : UdpRelay Ipv4, Machine.run step create delayedFrames = some relay ∧
      Machine.Always step NoStall (create : UdpRelay Ipv4) delayedFrames := by
  obtain ⟨relay, ran⟩ : ∃ relay : UdpRelay Ipv4, Machine.run step create delayedFrames = some relay := ⟨_, rfl⟩
  have fits : ∀ event ∈ delayedFrames, WellFormedFrame Ipv4 event := by
    simp [delayedFrames, WellFormedFrame, sample_frame_well_formed]
  exact ⟨relay, ran, (reply_queue_moving delayedFrames relay fits ran).mpr delayed_frames_guarded⟩

def lostFrame : List RelayEvent := [.frame CharArray.zeroed sampleFrame, .sent 0 true]

theorem reply_queue_stalled :
    (∀ event ∈ lostFrame, WellFormedFrame Ipv4 event) ∧
    ∃ relay : UdpRelay Ipv4, Machine.run step create lostFrame = some relay ∧ ¬ NoStall relay := by
  refine ⟨by simp [lostFrame, WellFormedFrame, sample_frame_well_formed], ?_⟩
  obtain ⟨relay, ran, queued, idle⟩ : ∃ relay : UdpRelay Ipv4, Machine.run step create lostFrame = some relay ∧
      relay.tcpPacketQueue.length = 1 ∧ relay.outstanding = [] := ⟨_, rfl, rfl, rfl⟩
  refine ⟨relay, ran, fun sending => sending ?_ idle⟩
  intro empty
  simp [empty] at queued

end Stall

end UdpRelay

end Rart
