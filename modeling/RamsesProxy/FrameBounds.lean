import RamsesProxy.ReceiveBuffer
import RamsesProxy.Router

set_option autoImplicit false

namespace Rart

open CText

-- What deliver_from_udp_peer, push_back and async_write do to m_payload, with the end
-- of the array checked at each access: no result where one of them runs past it.
namespace RouterPacket

def setPeerDataChecked (packet : RouterPacket) (peer : Bytes) : Option RouterPacket :=
  (packet.payload.memcpyChecked (headerLength + peerLengthSize) peer).map fun payload =>
    { packet with peerLength := UInt32.ofNat peer.length, payload := payload }

def setPacketDataChecked (packet : RouterPacket) (data : Bytes) : Option RouterPacket :=
  (packet.payload.memcpyChecked packet.packetDataOffset data).map fun payload =>
    { packet with payloadLength := UInt32.ofNat data.length + packet.peerLength + 4, payload := payload }

def encodeHeaderChecked (packet : RouterPacket) : Option RouterPacket :=
  (packet.payload.memcpyChecked 0 ((lengthText packet.payloadLength).take headerLength)).bind fun headed =>
    (headed.memcpyChecked headerLength ((lengthText packet.peerLength).take peerLengthSize)).map fun payload =>
      { packet with payload := payload }

def copyConstructChecked (raw : CharArray payloadCapacity) (other : RouterPacket) : Option RouterPacket :=
  if 0 < other.payloadLength then
    (other.payload.sliceChecked 0 other.copyLength).bind fun bytes =>
      (raw.memcpyChecked 0 bytes).map fun payload => { other with payload := payload }
  else some { other with payload := raw }

def dataChecked (packet : RouterPacket) : Option Bytes := packet.payload.sliceChecked 0 packet.dataLength.toNat

theorem set_peer_data_checked (packet : RouterPacket) (peer : Bytes) :
    packet.setPeerDataChecked peer =
      if headerLength + peerLengthSize + peer.length ≤ payloadCapacity then some (packet.setPeerData peer) else none := by
  unfold setPeerDataChecked CharArray.memcpyChecked
  by_cases inside : headerLength + peerLengthSize + peer.length ≤ payloadCapacity
  · rw [if_pos inside, if_pos inside]
    rfl
  · rw [if_neg inside, if_neg inside]
    rfl

theorem set_packet_data_checked (packet : RouterPacket) (data : Bytes) :
    packet.setPacketDataChecked data =
      if packet.packetDataOffset + data.length ≤ payloadCapacity then some (packet.setPacketData data) else none := by
  unfold setPacketDataChecked CharArray.memcpyChecked
  by_cases inside : packet.packetDataOffset + data.length ≤ payloadCapacity
  · rw [if_pos inside, if_pos inside]
    rfl
  · rw [if_neg inside, if_neg inside]
    rfl

theorem encode_header_checked (packet : RouterPacket) : packet.encodeHeaderChecked = some packet.encodeHeader := by
  have first : 0 + ((lengthText packet.payloadLength).take headerLength).length ≤ payloadCapacity := by
    have short := List.length_take_le headerLength (lengthText packet.payloadLength)
    simp only [headerLength, peerLengthSize, payloadCapacity, maxPayloadSize] at short ⊢
    omega
  have second : headerLength + ((lengthText packet.peerLength).take peerLengthSize).length ≤ payloadCapacity := by
    have short := List.length_take_le peerLengthSize (lengthText packet.peerLength)
    simp only [headerLength, peerLengthSize, payloadCapacity, maxPayloadSize] at short ⊢
    omega
  unfold encodeHeaderChecked CharArray.memcpyChecked
  rw [if_pos first, Option.bind_some, if_pos second]
  rfl

theorem copy_construct_checked (raw : CharArray payloadCapacity) (other : RouterPacket) (nonempty : 0 < other.payloadLength) :
    copyConstructChecked raw other = if other.copyLength ≤ payloadCapacity then some (copyConstruct raw other) else none := by
  unfold copyConstructChecked CharArray.memcpyChecked CharArray.sliceChecked
  rw [if_pos nonempty, Nat.zero_add]
  by_cases inside : other.copyLength ≤ payloadCapacity
  · rw [if_pos inside, if_pos inside, Option.bind_some, CharArray.slice_length, Nat.zero_add, if_pos inside, Option.map_some,
      copyConstruct, copy, if_pos nonempty]
  · rw [if_neg inside, if_neg inside, Option.bind_none]

theorem data_checked (packet : RouterPacket) :
    packet.dataChecked = if packet.dataLength.toNat ≤ payloadCapacity then some packet.data else none := by
  rw [dataChecked, CharArray.sliceChecked, Nat.zero_add]
  rfl

end RouterPacket

section Built

variable {Addr : Type} [AsioAddress Addr]

def udpPacketChecked (tuple : AdrTuple Addr) (data : Bytes) : Option RouterPacket :=
  (RouterPacket.create.setPeerDataChecked tuple.toText).bind fun peered =>
    (peered.setPacketDataChecked data).bind fun filled => filled.encodeHeaderChecked

def writtenChecked (raw : CharArray payloadCapacity) (tuple : AdrTuple Addr) (data : Bytes) : Option Bytes :=
  (udpPacketChecked tuple data).bind fun packet =>
    (RouterPacket.copyConstructChecked raw packet).bind fun queued => queued.dataChecked

theorem udp_packet_checked (tuple : AdrTuple Addr) (data : Bytes) (short : tuple.toText.length + data.length < 9996) :
    udpPacketChecked tuple data =
      if headerLength + peerLengthSize + tuple.toText.length + data.length ≤ payloadCapacity then
        some (udpPacket tuple data) else none := by
  have offset : (RouterPacket.create.setPeerData tuple.toText).packetDataOffset =
      headerLength + peerLengthSize + tuple.toText.length := by
    have length := (udp_packet_lengths tuple data short).1
    have same : (RouterPacket.create.setPeerData tuple.toText).peerLength = (udpPacket tuple data).peerLength := rfl
    rw [RouterPacket.packetDataOffset, same, length]
  rw [udpPacketChecked, RouterPacket.set_peer_data_checked]
  by_cases inside : headerLength + peerLengthSize + tuple.toText.length + data.length ≤ payloadCapacity
  · rw [if_pos (by omega), Option.bind_some, RouterPacket.set_packet_data_checked, offset, if_pos inside, Option.bind_some,
      RouterPacket.encode_header_checked, if_pos inside]
    rfl
  · rw [if_neg inside]
    by_cases peerInside : headerLength + peerLengthSize + tuple.toText.length ≤ payloadCapacity
    · rw [if_pos peerInside, Option.bind_some, RouterPacket.set_packet_data_checked, offset, if_neg inside, Option.bind_none]
    · rw [if_neg peerInside, Option.bind_none]

theorem written_checked (raw : CharArray payloadCapacity) (tuple : AdrTuple Addr) (data : Bytes)
    (short : tuple.toText.length + data.length < 9996) :
    writtenChecked raw tuple data = if tuple.toText.length + data.length ≤ 1020 then
      some (RouterPacket.copyConstruct raw (udpPacket tuple data)).data else none := by
  obtain ⟨_, length⟩ := udp_packet_lengths tuple data short
  have nonempty : 0 < (udpPacket tuple data).payloadLength := by
    rw [UInt32.lt_iff_toNat_lt, length]
    exact Nat.succ_pos _
  have copied : (udpPacket tuple data).copyLength = 12 + tuple.toText.length + data.length := by
    rw [RouterPacket.copyLength, UInt32.toNat_add, length]
    simp only [UInt32.reduceToNat]
    omega
  have sent : (RouterPacket.copyConstruct raw (udpPacket tuple data)).dataLength.toNat = 8 + tuple.toText.length + data.length := by
    have same : (RouterPacket.copyConstruct raw (udpPacket tuple data)).payloadLength = (udpPacket tuple data).payloadLength := rfl
    rw [RouterPacket.dataLength, UInt32.toNat_add, same, length]
    simp only [UInt32.reduceToNat]
    omega
  have capacity : payloadCapacity = 1032 := rfl
  have fields : headerLength + peerLengthSize = 8 := rfl
  rw [writtenChecked, udp_packet_checked tuple data short]
  by_cases inside : tuple.toText.length + data.length ≤ 1020
  · rw [if_pos inside, if_pos (by omega), Option.bind_some, RouterPacket.copy_construct_checked raw _ nonempty,
      if_pos (by omega), Option.bind_some, RouterPacket.data_checked, if_pos (by omega)]
  · rw [if_neg inside]
    by_cases built : headerLength + peerLengthSize + tuple.toText.length + data.length ≤ payloadCapacity
    · rw [if_pos built, Option.bind_some, RouterPacket.copy_construct_checked raw _ nonempty, if_neg (by omega), Option.bind_none]
    · rw [if_neg built, Option.bind_none]

theorem written_checked_fits (raw : CharArray payloadCapacity) (tuple : AdrTuple Addr) (data : Bytes)
    (short : tuple.toText.length + data.length < 9996) :
    (writtenChecked raw tuple data).isSome = frameFits tuple data := by
  rw [written_checked raw tuple data short, Bool.eq_iff_iff, frame_fits_iff]
  by_cases inside : tuple.toText.length + data.length ≤ 1020
  · simp [inside]
  · simp [inside]

theorem frame_stays_inside (dotted : DottedDecimal Addr) (peer : Endpoint Addr) (data : Bytes) (raw : CharArray payloadCapacity)
    (v4 : AsioAddress.isV4 peer.adr = true) (received : data.length ≤ networkBufferSize) :
    writtenChecked raw peer.udpTuple data = some (RouterPacket.copyConstruct raw (udpPacket peer.udpTuple data)).data ↔
      peer.udpTuple.toText.length + data.length ≤ 1020 := by
  have port : peer.udpTuple.port.toNat < 65536 := peer.port.toNat_lt
  have text := peer_text_length dotted peer.udpTuple v4 port
  change data.length ≤ 1024 at received
  rw [written_checked raw peer.udpTuple data (by omega)]
  by_cases inside : peer.udpTuple.toText.length + data.length ≤ 1020
  · rw [if_pos inside]
    exact ⟨fun _ => inside, fun _ => rfl⟩
  · rw [if_neg inside]
    constructor
    · intro impossible
      cases impossible
    · exact fun short => absurd short inside

end Built

theorem sample_text_length : samplePeer.toText.length = 9 := by decide

theorem frame_stays_inside_largest :
    writtenChecked CharArray.zeroed (⟨Ipv4.ofOctets 1 2 3 4, 5⟩ : Endpoint Ipv4).udpTuple (List.replicate 1011 0) =
      some (RouterPacket.copyConstruct CharArray.zeroed
        (udpPacket (⟨Ipv4.ofOctets 1 2 3 4, 5⟩ : Endpoint Ipv4).udpTuple (List.replicate 1011 0))).data := by
  have text : (⟨Ipv4.ofOctets 1 2 3 4, 5⟩ : Endpoint Ipv4).udpTuple.toText.length = 9 := sample_text_length
  apply (frame_stays_inside Ipv4.dotted_decimal ⟨Ipv4.ofOctets 1 2 3 4, 5⟩ (List.replicate 1011 0) CharArray.zeroed rfl ?_).mpr
  · rw [text, List.length_replicate]
  · rw [List.length_replicate]
    decide

theorem full_buffer_runs_over :
    (List.replicate 1024 (0 : UInt8)).length ≤ networkBufferSize ∧
      udpPacketChecked (⟨Ipv4.ofOctets 1 2 3 4, 5⟩ : Endpoint Ipv4).udpTuple (List.replicate 1024 0) = none ∧
      writtenChecked CharArray.zeroed (⟨Ipv4.ofOctets 1 2 3 4, 5⟩ : Endpoint Ipv4).udpTuple (List.replicate 1024 0) = none := by
  have text : (⟨Ipv4.ofOctets 1 2 3 4, 5⟩ : Endpoint Ipv4).udpTuple.toText.length = 9 := sample_text_length
  refine ⟨?_, ?_, ?_⟩
  · rw [List.length_replicate]
  · rw [udp_packet_checked _ _ (by rw [text, List.length_replicate]; decide), text, List.length_replicate]
    decide
  · rw [written_checked _ _ _ (by rw [text, List.length_replicate]; decide), text, List.length_replicate]
    decide

section Echo

variable {Addr : Type} [AsioAddress Addr]

structure EchoAccepted (session : RouterSession Addr) (packet : RouterPacket) : Prop where
  decoded : ∃ headed, (session.storeRead 0 (packet.data.take headerLength)).fromTcpPacket.decodeHeader = (headed, true) ∧
    headed.payloadLength = packet.payloadLength
  goesOn : ((session.storeRead 0 (packet.data.take headerLength)).handleReadHeader false headerLength).pending =
    session.pending ++ [.readPayload packet.payloadLength.toNat]

theorem echoed_header (session : RouterSession Addr) (tuple : AdrTuple Addr) (data : Bytes)
    (short : tuple.toText.length + data.length < 9996) :
    (session.storeRead 0 ((udpPacket tuple data).data.take headerLength)).fromTcpPacket.headerValue =
      (udpPacket tuple data).payloadLength.toNat := by
  obtain ⟨peerLength, payloadLength⟩ := udp_packet_lengths tuple data short
  have total : (udpPacket tuple data).dataLength.toNat = 4 + (udpPacket tuple data).payloadLength.toNat := by
    rw [RouterPacket.dataLength, UInt32.toNat_add, payloadLength]
    simp only [UInt32.reduceToNat]
    omega
  have header : (udpPacket tuple data).payload.slice 0 4 = printfD 4 (udpPacket tuple data).payloadLength.toNat :=
    (encode_header_lengths ((RouterPacket.create.setPeerData tuple.toText).setPacketData data)
      (show (udpPacket tuple data).payloadLength.toNat < 10000 by omega)
      (show (udpPacket tuple data).peerLength.toNat < 10000 by omega)).1
  have textLength := printf_d_length 4 (udpPacket tuple data).payloadLength.toNat (by decide) (by omega)
  have taken : (udpPacket tuple data).data.take headerLength = printfD 4 (udpPacket tuple data).payloadLength.toNat := by
    rw [RouterPacket.data, total, CharArray.slice_split, header, List.take_left' textLength]
  have stored : (session.fromTcpPacket.payload.memcpy 0 (printfD 4 (udpPacket tuple data).payloadLength.toNat)).slice 0 4 =
      printfD 4 (udpPacket tuple data).payloadLength.toNat := by
    have copied := CharArray.slice_memcpy session.fromTcpPacket.payload 0 (printfD 4 (udpPacket tuple data).payloadLength.toNat)
      (by simp only [textLength, payloadCapacity, headerLength, peerLengthSize, maxPayloadSize]; omega)
    rwa [textLength] at copied
  have text := strncat_empty _ 4 textLength (printf_d_no_nul 4 _)
  rw [taken, RouterPacket.headerValue]
  simp only [RouterSession.storeRead, headerLength, stored, text]
  exact atoi_printf_d 4 _ (by omega)

theorem echo_goes_on (session : RouterSession Addr) (tuple : AdrTuple Addr) (data : Bytes)
    (short : tuple.toText.length + data.length ≤ 1020) : EchoAccepted session (udpPacket tuple data) := by
  obtain ⟨_, length⟩ := udp_packet_lengths tuple data (by omega)
  have value := echoed_header session tuple data (by omega)
  have accepted := RouterPacket.decode_header_accepts
    (session.storeRead 0 ((udpPacket tuple data).data.take headerLength)).fromTcpPacket (by omega) (by omega)
  have same : UInt32.ofInt (session.storeRead 0 ((udpPacket tuple data).data.take headerLength)).fromTcpPacket.headerValue =
      (udpPacket tuple data).payloadLength := by
    have kept := uint32_of_nonneg ((udpPacket tuple data).payloadLength.toNat : Int) (by omega) (by omega)
    rw [value]
    exact UInt32.toNat_inj.mp (by omega)
  refine ⟨⟨_, accepted, same⟩, ?_⟩
  simp only [RouterSession.handleReadHeader, accepted, same]
  rfl

theorem echo_refused (session : RouterSession Addr) (tuple : AdrTuple Addr) (data : Bytes)
    (short : tuple.toText.length + data.length < 9996) (long : 1020 < tuple.toText.length + data.length) :
    ¬ EchoAccepted session (udpPacket tuple data) := by
  obtain ⟨_, length⟩ := udp_packet_lengths tuple data short
  have value := echoed_header session tuple data short
  have refused := RouterPacket.decode_header_refuses
    (session.storeRead 0 ((udpPacket tuple data).data.take headerLength)).fromTcpPacket (.inr (by omega))
  intro accepted
  obtain ⟨headed, decoded, _⟩ := accepted.decoded
  rw [refused] at decoded
  cases decoded

theorem own_header_accepted (session : RouterSession Addr) (peer : Endpoint Addr) (data : Bytes)
    (fits : headerLength + peerLengthSize + peer.udpTuple.toText.length + data.length ≤ payloadCapacity) :
    EchoAccepted session (udpPacket peer.udpTuple data) ↔ peer.udpTuple.toText.length + data.length ≤ 1020 := by
  simp only [headerLength, peerLengthSize, payloadCapacity, maxPayloadSize] at fits
  constructor
  · intro accepted
    by_contra long
    exact echo_refused session peer.udpTuple data (by omega) (by omega) accepted
  · exact echo_goes_on session peer.udpTuple data

end Echo

theorem own_header_accepted_largest :
    EchoAccepted (RouterSession.create samplePeer)
      (udpPacket (⟨Ipv4.ofOctets 1 2 3 4, 5⟩ : Endpoint Ipv4).udpTuple (List.replicate 1011 0)) := by
  have text : (⟨Ipv4.ofOctets 1 2 3 4, 5⟩ : Endpoint Ipv4).udpTuple.toText.length = 9 := sample_text_length
  apply (own_header_accepted (RouterSession.create samplePeer) ⟨Ipv4.ofOctets 1 2 3 4, 5⟩ (List.replicate 1011 0) ?_).mpr
  · rw [text, List.length_replicate]
  · rw [text, List.length_replicate]
    decide

-- One byte more fits into m_payload and makes the header say 1025.
theorem own_header_refused :
    headerLength + peerLengthSize + samplePeer.toText.length + (List.replicate 1012 (0 : UInt8)).length ≤ payloadCapacity ∧
      ¬ EchoAccepted (RouterSession.create samplePeer) (udpPacket samplePeer (List.replicate 1012 0)) := by
  constructor
  · rw [sample_text_length, List.length_replicate]
    decide
  · apply echo_refused
    · rw [sample_text_length, List.length_replicate]
      decide
    · rw [sample_text_length, List.length_replicate]
      decide

end Rart
