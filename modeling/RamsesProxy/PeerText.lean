import RamsesProxy.ReplyOrder

set_option autoImplicit false

namespace Rart

open CText

section Split

-- split_addr finds a first token and stays inside the two buffers of its callers, the
-- terminators included.
def SplitsSafely (text : Bytes) : Prop :=
  ∃ ip port, splitAddr text 32 8 = some (ip, port) ∧ ip.length + 1 ≤ 32 ∧ port.length + 1 ≤ 8

-- Any colons, up to 31 other bytes, and then nothing or a colon with up to 7 bytes.
def AddressShape (text : Bytes) : Prop :=
  ∃ colons ip tail, text = List.replicate colons 58 ++ (ip ++ tail) ∧ ip ≠ [] ∧ 58 ∉ ip ∧ ip.length ≤ 31 ∧
    (tail = [] ∨ ∃ port, tail = 58 :: port ∧ port.length ≤ 7)

theorem split_addr_token (text ip rest : Bytes) (cut : strtok (· == 58) text = some (ip, rest)) :
    splitAddr text 32 8 = if ip.length < 32 ∧ rest.length < 8 then some (ip, rest) else none := by
  by_cases none : rest = []
  · subst none
    simp only [splitAddr, cut]
    rfl
  · simp only [splitAddr, cut, strtok_rest rest none]

theorem splits_safely_iff (text : Bytes) :
    SplitsSafely text ↔ ∃ ip rest, strtok (· == 58) text = some (ip, rest) ∧ ip.length < 32 ∧ rest.length < 8 := by
  constructor
  · rintro ⟨ip, port, split, _⟩
    cases cut : strtok (· == 58) text with
    | none => simp [splitAddr, cut] at split
    | some pair =>
        obtain ⟨token, rest⟩ := pair
        rw [split_addr_token text token rest cut, Option.ite_none_right_eq_some] at split
        exact ⟨token, rest, rfl, split.1⟩
  · rintro ⟨ip, rest, cut, short, portShort⟩
    refine ⟨ip, rest, ?_, by omega, by omega⟩
    rw [split_addr_token text ip rest cut, if_pos ⟨short, portShort⟩]

theorem shape_splits (text : Bytes) (shape : AddressShape text) : SplitsSafely text := by
  obtain ⟨colons, ip, tail, rfl, nonempty, noColon, short, ending⟩ := shape
  have skipped : ∀ byte ∈ List.replicate colons (58 : UInt8), (byte == 58) = true := by
    intro byte member
    rw [List.eq_of_mem_replicate member]
    rfl
  have plain : ∀ byte ∈ ip, (byte == 58) = false := by
    intro byte member
    rw [beq_eq_false_iff_ne]
    rintro rfl
    exact noColon member
  rw [splits_safely_iff, strtok_skips (· == 58) _ _ skipped]
  rcases ending with rfl | ⟨port, rfl, portShort⟩
  · rw [List.append_nil, strtok_last (· == 58) ip nonempty plain]
    exact ⟨ip, [], rfl, by omega, by decide⟩
  · rw [strtok_token (· == 58) ip port 58 nonempty plain rfl]
    exact ⟨ip, port, rfl, by omega, by omega⟩

theorem splits_shape (text : Bytes) (safe : SplitsSafely text) : AddressShape text := by
  obtain ⟨ip, rest, cut, short, portShort⟩ := (splits_safely_iff text).mp safe
  obtain ⟨marks, tail, whole, skipped, nonempty, plain, ending⟩ := strtok_shape _ _ _ _ cut
  have colons : marks = List.replicate marks.length 58 := by
    apply List.eq_replicate_of_mem
    intro byte member
    exact beq_iff_eq.mp (skipped byte member)
  have noColon : 58 ∉ ip := fun member => by
    have apart := plain 58 member
    cases apart
  refine ⟨marks.length, ip, tail, by rw [← colons]; exact whole, nonempty, noColon, by omega, ?_⟩
  rcases ending with ⟨none, _⟩ | ⟨mark, marked, cutTail⟩
  · exact .inl none
  · obtain rfl : mark = 58 := beq_iff_eq.mp marked
    exact .inr ⟨rest, cutTail, by omega⟩

theorem split_addr_safe (packet : RouterPacket) (text : Bytes) (read : packet.getPeerData 128 = some text) :
    SplitsSafely text ↔
      AddressShape (cstr (packet.payload.slice (headerLength + peerLengthSize) packet.peerLength.toNat)) := by
  have field : text = cstr (packet.payload.slice (headerLength + peerLengthSize) packet.peerLength.toNat) := by
    simp only [RouterPacket.getPeerData, Option.ite_none_right_eq_some, Option.some.injEq] at read
    rw [← read.2, strncat, List.take_of_length_le (by rw [CharArray.slice_length]), List.nil_append]
  rw [← field]
  exact ⟨splits_shape text, shape_splits text⟩

theorem split_addr_safe_sample : SplitsSafely samplePeer.toText := by
  apply (split_addr_safe sampleFrame samplePeer.toText (by decide)).mpr
  exact ⟨0, [49, 46, 50, 46, 51, 46, 52], [58, 53], by decide, by decide, by decide, by decide, .inr ⟨[53], rfl, by decide⟩⟩

-- A peer text of nothing but colons has no token for strcpy to read.
def peerFrame (text : Bytes) : RouterPacket := ((RouterPacket.create.setPeerData text).setPacketData [65]).encodeHeader

theorem colons_split_unsafely :
    (peerFrame [58, 58, 58]).getPeerData 128 = some [58, 58, 58] ∧ strtok (· == 58) [58, 58, 58] = none ∧ ¬ SplitsSafely [58, 58, 58] := by
  refine ⟨by decide, rfl, ?_⟩
  rintro ⟨ip, port, split, _⟩
  cases split

end Split

section Malformed

variable {Addr : Type} [AsioAddress Addr]

def ValidPeer (Addr : Type) [AsioAddress Addr] (text : Bytes) : Prop :=
  ∃ ip port, ∃ adr : Addr, text = ip ++ 58 :: port ∧ AsioAddress.fromText ip = some adr ∧ AsioAddress.isV4 adr = true ∧
    port ≠ [] ∧ (∀ byte ∈ port, isDigit byte = true) ∧ digitsValue port ≤ 65535

def DropsFront (relay : UdpRelay Addr) : Prop :=
  ∃ next, relay.deliverToUdpPeer = .ok next ∧ next.handed = relay.handed ∧ next.outstanding = relay.outstanding ∧
    next.tcpPacketQueue = relay.tcpPacketQueue.tail

theorem read_peer_delivery (relay : UdpRelay Addr) (front : Reply) (rest : List Reply) (text : Bytes)
    (queue : relay.tcpPacketQueue = front :: rest) (read : front.packet.getPeerData 128 = some text) :
    (∃ fault, relay.deliverToUdpPeer = .error fault) ∨ ∃ send, relay.deliverToUdpPeer = .ok (relay.asyncSendTo send) := by
  cases addressed : front.address Addr with
  | error fault =>
      refine .inl ⟨fault, ?_⟩
      simp only [UdpRelay.deliverToUdpPeer, UdpRelay.deliverFront, queue, addressed]
  | ok found =>
      cases found with
      | none =>
          unfold Reply.address at addressed
          rw [read] at addressed
          dsimp only at addressed
          split at addressed
          · cases addressed
          · split at addressed
            · cases addressed
            · cases addressed
      | some send =>
          refine .inr ⟨send, ?_⟩
          simp only [UdpRelay.deliverToUdpPeer, UdpRelay.deliverFront, queue, addressed]

theorem failed_not_dropped (relay : UdpRelay Addr) (fault : Fault) (failed : relay.deliverToUdpPeer = .error fault) :
    ¬ DropsFront relay := by
  rintro ⟨next, delivered, _⟩
  rw [failed] at delivered
  cases delivered

theorem sent_not_dropped (relay : UdpRelay Addr) (send : SendTo Addr) (sent : relay.deliverToUdpPeer = .ok (relay.asyncSendTo send)) :
    ¬ DropsFront relay := by
  rintro ⟨next, delivered, handed, _⟩
  rw [sent] at delivered
  cases delivered
  have grown := congrArg List.length handed
  simp [UdpRelay.asyncSendTo] at grown

-- Once get_peer_data has read a text, the delivery ends in a send or not at all.
theorem malformed_peer_not_dropped (relay : UdpRelay Addr) (front : Reply) (rest : List Reply) (text : Bytes)
    (queue : relay.tcpPacketQueue = front :: rest) (read : front.packet.getPeerData 128 = some text)
    (_malformed : ¬ ValidPeer Addr text) : ¬ DropsFront relay := by
  rcases read_peer_delivery relay front rest text queue read with ⟨fault, failed⟩ | ⟨send, sent⟩
  · exact failed_not_dropped relay fault failed
  · exact sent_not_dropped relay send sent

end Malformed

def hostName : Bytes := [108, 111, 99, 97, 108, 104, 111, 115, 116]
def widePort : Bytes := [49, 46, 50, 46, 51, 46, 52, 58, 54, 53, 53, 52, 49]

def queuedPeer (text : Bytes) : UdpRelay Ipv4 := UdpRelay.create.pushTcpPacket CharArray.zeroed (peerFrame text)

theorem host_name_malformed : ¬ ValidPeer Ipv4 hostName := by
  rintro ⟨ip, port, _, whole, _⟩
  have colon : (58 : UInt8) ∈ hostName := by
    rw [whole]
    simp
  revert colon
  decide

theorem wide_port_malformed : ¬ ValidPeer Ipv4 widePort := by
  rintro ⟨ip, port, _, whole, _, _, _, _, small⟩
  have places : ∀ place < 13, widePort[place]? = some 58 → place = 7 := by decide
  have length : ip.length < 13 := by
    have total := congrArg List.length whole
    simp only [widePort, List.length_append, List.length_cons, List.length_nil] at total
    omega
  have place := places ip.length length (by rw [whole]; simp)
  have digits : widePort.drop 8 = port := by
    rw [whole, show 8 = ip.length + 1 by omega, List.drop_append]
    simp
  rw [← digits] at small
  revert small
  decide

theorem malformed_peer_not_dropped_host_name : ¬ DropsFront (queuedPeer hostName) := by
  obtain ⟨front, queue, read⟩ : ∃ front, (queuedPeer hostName).tcpPacketQueue = [front] ∧
      front.packet.getPeerData 128 = some hostName := ⟨_, rfl, by decide⟩
  exact malformed_peer_not_dropped (queuedPeer hostName) front [] hostName queue read host_name_malformed

theorem malformed_peers_mishandled :
    (¬ ValidPeer Ipv4 hostName ∧ (queuedPeer hostName).deliverToUdpPeer = .error .exception ∧ ¬ DropsFront (queuedPeer hostName)) ∧
    (¬ ValidPeer Ipv4 widePort ∧ (∃ send, (queuedPeer widePort).deliverToUdpPeer = .ok ((queuedPeer widePort).asyncSendTo send) ∧
      send.peer = ⟨.ofOctets 1 2 3 4, 5⟩) ∧ ¬ DropsFront (queuedPeer widePort)) := by
  have failed : (queuedPeer hostName).deliverToUdpPeer = .error .exception := rfl
  obtain ⟨send, sent, peer⟩ : ∃ send, (queuedPeer widePort).deliverToUdpPeer = .ok ((queuedPeer widePort).asyncSendTo send) ∧
      send.peer = ⟨.ofOctets 1 2 3 4, 5⟩ := ⟨_, rfl, by decide⟩
  exact ⟨⟨host_name_malformed, failed, failed_not_dropped _ _ failed⟩, wide_port_malformed, ⟨send, sent, peer⟩,
    sent_not_dropped _ send sent⟩

end Rart
