import RamsesProxy.RouterPacket
import RamsesProxy.AdrTuple
import RamsesProxy.Lib.Machine
import RamsesProxy.Lib.Sequences

set_option autoImplicit false

namespace Rart

open CText

-- An element of m_tcpPacketQueue. The serial number is its place among all the frames
-- ever queued: it tells apart frames with the same bytes, and the source has none.
structure Reply where
  serial : Nat
  packet : RouterPacket

-- One call of async_send_to. Its buffer is not a copy: it points into the queued packet.
structure SendTo (Addr : Type) where
  reply : Reply
  peer : Endpoint Addr
  offset : Nat
  size : UInt32

-- Either way the handler does not return to the io_service.
inductive Fault where
  | exception
  | undefined
deriving DecidableEq, Repr

-- The reply queue of the SessionManager with the sends of the UdpRelayServer. The last
-- three fields are history: frames queued, sends started and frames popped so far.
structure UdpRelay (Addr : Type) where
  tcpPacketQueue : List Reply
  outstanding : List (SendTo Addr)
  received : List Reply
  handed : List (SendTo Addr)
  popped : List Reply

-- The part of both deliver_to_udp_peer functions between the peek and the send: nothing
-- to send for a peer field that get_peer_data refuses.
def Reply.address (Addr : Type) [AsioAddress Addr] (reply : Reply) : Except Fault (Option (SendTo Addr)) :=
  match reply.packet.getPeerData 128 with
  | none => .ok none
  | some peerData =>
      match splitAddr peerData 32 8 with
      | none => .error .undefined
      | some (peerAdr, peerPort) =>
          match AsioAddress.fromText peerAdr with
          | none => .error .exception
          | some adr =>
              .ok (some ⟨reply, ⟨adr, UInt16.ofInt (atoi peerPort)⟩, reply.packet.packetDataOffset,
                reply.packet.packetDataLength⟩)

theorem address_reply {Addr : Type} [AsioAddress Addr] (reply : Reply) (send : SendTo Addr)
    (addressed : reply.address Addr = .ok (some send)) :
    send.reply = reply := by
  unfold Reply.address at addressed
  split at addressed
  · cases addressed
  · split at addressed
    · cases addressed
    · split at addressed
      · cases addressed
      · cases addressed
        rfl

namespace UdpRelay

variable {Addr : Type}

def create : UdpRelay Addr := ⟨[], [], [], [], []⟩

def popTcpPacket (relay : UdpRelay Addr) : UdpRelay Addr :=
  { relay with
    tcpPacketQueue := relay.tcpPacketQueue.tail
    popped := relay.popped ++ relay.tcpPacketQueue.head?.toList }

def asyncSendTo (relay : UdpRelay Addr) (send : SendTo Addr) : UdpRelay Addr :=
  { relay with outstanding := relay.outstanding ++ [send], handed := relay.handed ++ [send] }

def newReply (relay : UdpRelay Addr) (raw : CharArray payloadCapacity) (packet : RouterPacket) : Reply :=
  ⟨relay.received.length, .copyConstruct raw packet⟩

def pushTcpPacket (relay : UdpRelay Addr) (raw : CharArray payloadCapacity) (packet : RouterPacket) : UdpRelay Addr :=
  { relay with
    tcpPacketQueue := relay.tcpPacketQueue ++ [relay.newReply raw packet]
    received := relay.received ++ [relay.newReply raw packet] }

theorem push_empty (relay : UdpRelay Addr) (raw : CharArray payloadCapacity) (packet : RouterPacket)
    (empty : relay.tcpPacketQueue = []) :
    (relay.pushTcpPacket raw packet).tcpPacketQueue = [relay.newReply raw packet] := by
  simp [pushTcpPacket, empty]

theorem push_cons (relay : UdpRelay Addr) (raw : CharArray payloadCapacity) (packet : RouterPacket) (front : Reply)
    (rest : List Reply) (queue : relay.tcpPacketQueue = front :: rest) :
    (relay.pushTcpPacket raw packet).tcpPacketQueue = front :: (rest ++ [relay.newReply raw packet]) := by
  simp [pushTcpPacket, queue]

theorem pop_cons (relay : UdpRelay Addr) (front : Reply) (rest : List Reply)
    (queue : relay.tcpPacketQueue = front :: rest) :
    relay.popTcpPacket = { relay with tcpPacketQueue := rest, popped := relay.popped ++ [front] } := by
  simp [popTcpPacket, queue]

variable [AsioAddress Addr]

def deliverFront (relay : UdpRelay Addr) : Except Fault (UdpRelay Addr) :=
  match relay.tcpPacketQueue with
  | [] => .ok relay
  | packet :: _ =>
      match packet.address Addr with
      | .error fault => .error fault
      | .ok none => .ok relay.popTcpPacket
      | .ok (some send) => .ok (relay.asyncSendTo send)

-- deliver_to_udp_peer() and deliver_to_udp_peer(RouterSessionPtr&) differ in their logs only.
def deliverToUdpPeer (relay : UdpRelay Addr) : Except Fault (UdpRelay Addr) := relay.deliverFront
def deliverToUdpPeerOfSession (relay : UdpRelay Addr) : Except Fault (UdpRelay Addr) := relay.deliverFront

-- The flag is named as in the source, and tests the opposite of what its name says.
def addTcpPacket (raw : CharArray payloadCapacity) (packet : RouterPacket) (relay : UdpRelay Addr) :
    Except Fault (UdpRelay Addr) :=
  let writeInProgress := relay.tcpPacketQueue.isEmpty
  let pushed := relay.pushTcpPacket raw packet
  if writeInProgress = false then pushed.deliverToUdpPeer else .ok pushed

def handleFrame (raw : CharArray payloadCapacity) (packet : RouterPacket) (relay : UdpRelay Addr) :
    Except Fault (UdpRelay Addr) :=
  (relay.addTcpPacket raw packet).bind deliverToUdpPeerOfSession

def handOver (raw : CharArray payloadCapacity) (packet : Option RouterPacket) (relay : UdpRelay Addr) :
    Except Fault (UdpRelay Addr) :=
  match packet with
  | none => .ok relay
  | some frame => relay.handleFrame raw frame

def handleDeliverToUdpPeer (error : Bool) (relay : UdpRelay Addr) : Except Fault (UdpRelay Addr) :=
  if error = true then .ok relay
  else if relay.tcpPacketQueue.isEmpty = false then relay.popTcpPacket.deliverToUdpPeer
  else .ok relay

end UdpRelay

inductive RelayEvent where
  | frame (raw : CharArray payloadCapacity) (packet : RouterPacket)
  | sent (index : Nat) (error : Bool)

namespace UdpRelay

variable {Addr : Type}

def finishSend (relay : UdpRelay Addr) (index : Nat) : UdpRelay Addr :=
  { relay with outstanding := relay.outstanding.eraseIdx index }

variable [AsioAddress Addr]

def step (relay : UdpRelay Addr) : RelayEvent → Option (UdpRelay Addr)
  | .frame raw packet => (relay.handleFrame raw packet).toOption
  | .sent index error =>
      match relay.outstanding[index]? with
      | none => none
      | some _ => ((relay.finishSend index).handleDeliverToUdpPeer error).toOption

theorem deliver_cases (relay next : UdpRelay Addr) (delivered : relay.deliverFront = .ok next) :
    (relay.tcpPacketQueue = [] ∧ next = relay) ∨
    (∃ front rest, relay.tcpPacketQueue = front :: rest ∧ front.address Addr = .ok none ∧
      next = relay.popTcpPacket) ∨
    (∃ front rest send, relay.tcpPacketQueue = front :: rest ∧ front.address Addr = .ok (some send) ∧
      next = relay.asyncSendTo send) := by
  unfold deliverFront at delivered
  split at delivered
  · rename_i empty
    cases delivered
    exact .inl ⟨empty, rfl⟩
  · rename_i front rest queue
    split at delivered
    · cases delivered
    · rename_i refused
      cases delivered
      exact .inr (.inl ⟨front, rest, queue, refused, rfl⟩)
    · rename_i send addressed
      cases delivered
      exact .inr (.inr ⟨front, rest, send, queue, addressed, rfl⟩)

theorem deliver_empty (relay next : UdpRelay Addr) (empty : relay.tcpPacketQueue = [])
    (delivered : relay.deliverFront = .ok next) : next = relay := by
  simp only [deliverFront, empty] at delivered
  exact (Except.ok.inj delivered).symm

theorem to_option_some {Value : Type} (result : Except Fault Value) (value : Value) (isSome : result.toOption = some value) :
    result = .ok value := by
  cases result with
  | error fault => cases isSome
  | ok other => exact congrArg Except.ok (Option.some.inj isSome)

theorem frame_cases (relay next : UdpRelay Addr) (raw : CharArray payloadCapacity) (packet : RouterPacket)
    (stepped : relay.step (.frame raw packet) = some next) :
    (relay.tcpPacketQueue = [] ∧ (relay.pushTcpPacket raw packet).deliverFront = .ok next) ∨
    (relay.tcpPacketQueue ≠ [] ∧ ∃ middle, (relay.pushTcpPacket raw packet).deliverFront = .ok middle ∧
      middle.deliverFront = .ok next) := by
  have handled := to_option_some _ _ stepped
  unfold handleFrame addTcpPacket at handled
  cases queue : relay.tcpPacketQueue with
  | nil =>
      simp only [queue, List.isEmpty_nil, Bool.true_eq_false, if_false] at handled
      exact .inl ⟨rfl, handled⟩
  | cons front rest =>
      simp only [queue, List.isEmpty_cons, if_true] at handled
      refine .inr ⟨by simp, ?_⟩
      cases first : (relay.pushTcpPacket raw packet).deliverFront with
      | error fault =>
          rw [deliverToUdpPeer, first] at handled
          cases handled
      | ok middle =>
          rw [deliverToUdpPeer, first] at handled
          exact ⟨middle, rfl, handled⟩

theorem sent_cases (relay next : UdpRelay Addr) (index : Nat) (error : Bool)
    (stepped : relay.step (.sent index error) = some next) :
    ∃ send, relay.outstanding[index]? = some send ∧
      ((error = true ∧ next = relay.finishSend index) ∨
       (error = false ∧ relay.tcpPacketQueue = [] ∧ next = relay.finishSend index) ∨
       (error = false ∧ relay.tcpPacketQueue ≠ [] ∧ (relay.finishSend index).popTcpPacket.deliverFront = .ok next)) := by
  simp only [step] at stepped
  split at stepped
  · cases stepped
  · rename_i send found
    refine ⟨send, found, ?_⟩
    have handled := to_option_some _ _ stepped
    unfold handleDeliverToUdpPeer at handled
    cases error with
    | true =>
        cases handled
        exact .inl ⟨rfl, rfl⟩
    | false =>
        simp only [Bool.false_eq_true, if_false] at handled
        cases queue : relay.tcpPacketQueue with
        | nil =>
            have empty : (relay.finishSend index).tcpPacketQueue = [] := queue
            simp only [empty, List.isEmpty_nil, Bool.true_eq_false, if_false] at handled
            cases handled
            exact .inr (.inl ⟨rfl, rfl, rfl⟩)
        | cons front rest =>
            have busy : (relay.finishSend index).tcpPacketQueue = front :: rest := queue
            simp only [busy, List.isEmpty_cons, if_true] at handled
            exact .inr (.inr ⟨rfl, by simp, handled⟩)

end UdpRelay

end Rart
