import RamsesProxy.ReplyOrder
import RamsesProxy.RouterSession

set_option autoImplicit false

namespace Rart

open CText

section Frame

variable {Addr : Type} [AsioAddress Addr]

def udpPacket (tuple : AdrTuple Addr) (data : Bytes) : RouterPacket :=
  ((RouterPacket.create.setPeerData tuple.toText).setPacketData data).encodeHeader

-- The copy that push_back makes of the packet reads and writes the frame up to its end.
-- A frame too long for m_payload has no next state: the copy runs past the array.
def frameFits (tuple : AdrTuple Addr) (data : Bytes) : Bool :=
  headerLength + peerLengthSize + (data.length + tuple.toText.length + peerLengthSize) ≤ payloadCapacity

theorem frame_fits_iff (tuple : AdrTuple Addr) (data : Bytes) :
    frameFits tuple data = true ↔ tuple.toText.length + data.length ≤ 1020 := by
  simp only [frameFits, decide_eq_true_eq, headerLength, peerLengthSize, payloadCapacity, maxPayloadSize]
  omega

structure Holds (packet : RouterPacket) (peer data : Bytes) : Prop where
  payloadLength : packet.payloadLength.toNat = data.length + peer.length + 4
  peerLength : packet.peerLength.toNat = peer.length
  peerText : packet.payload.slice 8 peer.length = peer
  packetData : packet.payload.slice (8 + peer.length) data.length = data

theorem holds_bounds (packet : RouterPacket) (peer data : Bytes) (short : peer.length + data.length ≤ 1020)
    (holds : Holds packet peer data) : packet.payloadLength ≤ 1024 ∧ 0 < packet.payloadLength := by
  rw [UInt32.le_iff_toNat_le, UInt32.lt_iff_toNat_lt, holds.payloadLength]
  simp only [UInt32.reduceToNat]
  omega

theorem holds_copy (raw : CharArray payloadCapacity) (packet : RouterPacket) (peer data : Bytes)
    (short : peer.length + data.length ≤ 1020) (holds : Holds packet peer data) :
    Holds (.copyConstruct raw packet) peer data := by
  have lengths := holds.payloadLength
  obtain ⟨bounded, nonempty⟩ := holds_bounds packet peer data short holds
  refine ⟨lengths, holds.peerLength, ?_, ?_⟩
  · exact (RouterPacket.copy_slice _ packet 8 _ bounded nonempty (by omega)).trans holds.peerText
  · exact (RouterPacket.copy_slice _ packet _ _ bounded nonempty (by omega)).trans holds.packetData

theorem length_text (length : UInt32) (small : length.toNat < 10000) :
    RouterPacket.lengthText length = printfD 4 length.toNat := by
  rw [RouterPacket.lengthText, Int.bmod_eq_of_le (by omega) (by omega)]

theorem length_text_length (length : UInt32) (small : length.toNat < 10000) :
    (RouterPacket.lengthText length).length = 4 := by
  rw [length_text length small]
  exact printf_d_length 4 length.toNat (by decide) small

theorem encode_header_slice (packet : RouterPacket) (offset count : Nat) (payloadSmall : packet.payloadLength.toNat < 10000)
    (peerSmall : packet.peerLength.toNat < 10000) (behind : 8 ≤ offset) :
    packet.encodeHeader.payload.slice offset count = packet.payload.slice offset count := by
  have payloadText := length_text_length packet.payloadLength payloadSmall
  have peerText := length_text_length packet.peerLength peerSmall
  simp only [RouterPacket.encodeHeader]
  rw [CharArray.slice_memcpy_outside _ _ _ _ _ (.inr (by simp only [List.length_take, peerText, headerLength, peerLengthSize]; omega)),
    CharArray.slice_memcpy_outside _ _ _ _ _ (.inr (by simp only [List.length_take, payloadText, headerLength]; omega))]

theorem encode_header_lengths (packet : RouterPacket) (payloadSmall : packet.payloadLength.toNat < 10000)
    (peerSmall : packet.peerLength.toNat < 10000) :
    packet.encodeHeader.payload.slice 0 4 = printfD 4 packet.payloadLength.toNat ∧
      packet.encodeHeader.payload.slice 4 4 = printfD 4 packet.peerLength.toNat := by
  have payloadText := length_text_length packet.payloadLength payloadSmall
  have peerText := length_text_length packet.peerLength peerSmall
  have payloadWhole : (RouterPacket.lengthText packet.payloadLength).take 4 = RouterPacket.lengthText packet.payloadLength :=
    List.take_of_length_le (by omega)
  have peerWhole : (RouterPacket.lengthText packet.peerLength).take 4 = RouterPacket.lengthText packet.peerLength :=
    List.take_of_length_le (by omega)
  rw [← length_text _ payloadSmall, ← length_text _ peerSmall]
  simp only [RouterPacket.encodeHeader, headerLength, peerLengthSize, payloadWhole, peerWhole]
  refine ⟨?_, ?_⟩
  · rw [CharArray.slice_memcpy_outside _ _ _ _ _ (.inl (by omega))]
    have copied := CharArray.slice_memcpy packet.payload 0 (RouterPacket.lengthText packet.payloadLength)
      (by simp only [payloadText, payloadCapacity, headerLength, peerLengthSize, maxPayloadSize]; omega)
    rwa [payloadText] at copied
  · have copied := CharArray.slice_memcpy (packet.payload.memcpy 0 (RouterPacket.lengthText packet.payloadLength)) 4
      (RouterPacket.lengthText packet.peerLength)
      (by simp only [peerText, payloadCapacity, headerLength, peerLengthSize, maxPayloadSize]; omega)
    rwa [peerText] at copied

theorem udp_packet_lengths (tuple : AdrTuple Addr) (data : Bytes) (short : tuple.toText.length + data.length < 9996) :
    (udpPacket tuple data).peerLength.toNat = tuple.toText.length ∧
      (udpPacket tuple data).payloadLength.toNat = data.length + tuple.toText.length + 4 := by
  have peerLength : (UInt32.ofNat tuple.toText.length).toNat = tuple.toText.length :=
    UInt32.toNat_ofNat_of_lt' (by have : UInt32.size = 4294967296 := rfl; omega)
  have dataLength : (UInt32.ofNat data.length).toNat = data.length :=
    UInt32.toNat_ofNat_of_lt' (by have : UInt32.size = 4294967296 := rfl; omega)
  refine ⟨peerLength, ?_⟩
  change (UInt32.ofNat data.length + UInt32.ofNat tuple.toText.length + 4).toNat = data.length + tuple.toText.length + 4
  simp only [UInt32.toNat_add, peerLength, dataLength, UInt32.reduceToNat]
  omega

theorem udp_packet_holds (tuple : AdrTuple Addr) (data : Bytes) (short : tuple.toText.length + data.length ≤ 1020) :
    Holds (udpPacket tuple data) tuple.toText data := by
  obtain ⟨peerLength, payloadLength⟩ := udp_packet_lengths tuple data (by omega)
  change (UInt32.ofNat tuple.toText.length).toNat = tuple.toText.length at peerLength
  change (UInt32.ofNat data.length + UInt32.ofNat tuple.toText.length + 4).toNat = data.length + tuple.toText.length + 4 at payloadLength
  have payloadSmall : (UInt32.ofNat data.length + UInt32.ofNat tuple.toText.length + 4).toNat < 10000 := by omega
  have peerSmall : (UInt32.ofNat tuple.toText.length).toNat < 10000 := by omega
  refine ⟨payloadLength, peerLength, ?_, ?_⟩
  · rw [udpPacket, encode_header_slice _ _ _ payloadSmall peerSmall (by omega)]
    simp only [RouterPacket.setPacketData, RouterPacket.packetDataOffset, RouterPacket.setPeerData, peerLength]
    rw [CharArray.slice_memcpy_outside _ _ _ _ _ (.inl (by simp only [headerLength, peerLengthSize]; omega))]
    exact CharArray.slice_memcpy _ 8 tuple.toText (by simp only [payloadCapacity, headerLength, peerLengthSize, maxPayloadSize]; omega)
  · rw [udpPacket, encode_header_slice _ _ _ payloadSmall peerSmall (by omega)]
    simp only [RouterPacket.setPacketData, RouterPacket.packetDataOffset, RouterPacket.setPeerData, peerLength]
    exact CharArray.slice_memcpy _ _ data (by simp only [payloadCapacity, headerLength, peerLengthSize, maxPayloadSize]; omega)

theorem udp_packet_data (tuple : AdrTuple Addr) (data : Bytes) (raw : CharArray payloadCapacity)
    (short : tuple.toText.length + data.length ≤ 1020) :
    (RouterPacket.copyConstruct raw (udpPacket tuple data)).data =
      printfD 4 (data.length + tuple.toText.length + 4 : Nat) ++
        (printfD 4 tuple.toText.length ++ (tuple.toText ++ data)) := by
  have holds := udp_packet_holds tuple data short
  have lengths := holds.payloadLength
  obtain ⟨bounded, nonempty⟩ := holds_bounds _ _ data short holds
  have total : (RouterPacket.copyConstruct raw (udpPacket tuple data)).dataLength.toNat =
      4 + (4 + (tuple.toText.length + data.length)) := by
    rw [RouterPacket.dataLength, UInt32.toNat_add, show (RouterPacket.copyConstruct raw (udpPacket tuple data)).payloadLength =
      (udpPacket tuple data).payloadLength from rfl, lengths]
    simp only [UInt32.reduceToNat]
    omega
  obtain ⟨payloadText, peerText⟩ := encode_header_lengths
    ((RouterPacket.create.setPeerData tuple.toText).setPacketData data)
    (show (udpPacket tuple data).payloadLength.toNat < 10000 by omega)
    (show (udpPacket tuple data).peerLength.toNat < 10000 by rw [holds.peerLength]; omega)
  rw [RouterPacket.data, total, RouterPacket.copyConstruct, RouterPacket.copy_slice _ _ 0 _ bounded nonempty (by omega)]
  rw [CharArray.slice_split, CharArray.slice_split, CharArray.slice_split]
  have header : (udpPacket tuple data).payload.slice 0 4 = printfD 4 (udpPacket tuple data).payloadLength.toNat := payloadText
  have peer : (udpPacket tuple data).payload.slice 4 4 = printfD 4 (udpPacket tuple data).peerLength.toNat := peerText
  rw [lengths] at header
  rw [holds.peerLength] at peer
  simp only [Nat.zero_add, Nat.reduceAdd, header, peer, holds.peerText, holds.packetData]

end Frame

section Decode

theorem of_int_length (length : Nat) (small : length < 10000) :
    (UInt32.ofInt (atoi (printfD 4 length))).toNat = length := by
  have kept : ((length : Int) % 2 ^ 32).toNat = length := by omega
  rw [atoi_printf_d 4 length (by omega), UInt32.ofInt, kept]
  exact UInt32.toNat_ofNat_of_lt' (by have : UInt32.size = 4294967296 := rfl; omega)

theorem decode_read_header (packet : RouterPacket) (length : Nat) (small : length ≤ 1024) :
    ∃ decoded, ({ packet with payload := packet.payload.memcpy 0 (printfD 4 length) } : RouterPacket).decodeHeader = (decoded, true) ∧
      decoded.payloadLength.toNat = length := by
  have textLength : (printfD 4 length).length = 4 := printf_d_length 4 length (by decide) (by omega)
  have stored : (packet.payload.memcpy 0 (printfD 4 length)).slice 0 4 = printfD 4 length := by
    have copied := CharArray.slice_memcpy packet.payload 0 (printfD 4 length)
      (by simp only [textLength, payloadCapacity, headerLength, peerLengthSize, maxPayloadSize]; omega)
    rwa [textLength] at copied
  have text : strncat [] (printfD 4 length) 4 = printfD 4 length := strncat_empty _ 4 textLength (printf_d_no_nul 4 length)
  have value := of_int_length length (by omega)
  have fits : ¬ UInt32.ofInt (atoi (printfD 4 length)) > 1024 := by
    rw [gt_iff_lt, UInt32.lt_iff_toNat_lt, value]
    simp only [UInt32.reduceToNat]
    omega
  refine ⟨⟨UInt32.ofInt (atoi (printfD 4 length)), packet.peerLength, packet.payload.memcpy 0 (printfD 4 length)⟩, ?_, value⟩
  simp only [RouterPacket.decodeHeader, headerLength, stored, text, if_neg fits]

theorem decode_read_payload (packet : RouterPacket) (peer data : Bytes) (short : peer.length + data.length ≤ 1020)
    (length : packet.payloadLength.toNat = data.length + peer.length + 4) :
    ∃ decoded, ({ packet with payload := packet.payload.memcpy 4 (printfD 4 peer.length ++ (peer ++ data)) } : RouterPacket).decodePeer =
      (decoded, true) ∧ Holds decoded peer data := by
  have textLength : (printfD 4 peer.length).length = 4 := printf_d_length 4 peer.length (by decide) (by omega)
  have bodyLength : (printfD 4 peer.length ++ (peer ++ data)).length = 4 + (peer.length + data.length) := by
    simp only [List.length_append, textLength]
  have stored := CharArray.slice_memcpy packet.payload 4 (printfD 4 peer.length ++ (peer ++ data))
    (by simp only [bodyLength, payloadCapacity, headerLength, peerLengthSize, maxPayloadSize]; omega)
  rw [bodyLength, CharArray.slice_split, CharArray.slice_split] at stored
  obtain ⟨prefixed, rest⟩ := List.append_inj stored (by simp [textLength])
  obtain ⟨peerText, packetData⟩ := List.append_inj rest (by simp)
  have text : strncat [] (printfD 4 peer.length) 4 = printfD 4 peer.length :=
    strncat_empty _ 4 textLength (printf_d_no_nul 4 peer.length)
  have value := of_int_length peer.length (by omega)
  have fits : ¬ UInt32.ofInt (atoi (printfD 4 peer.length)) > packet.payloadLength := by
    rw [gt_iff_lt, UInt32.lt_iff_toNat_lt, value, length]
    omega
  refine ⟨⟨packet.payloadLength, UInt32.ofInt (atoi (printfD 4 peer.length)),
    packet.payload.memcpy 4 (printfD 4 peer.length ++ (peer ++ data))⟩, ?_, length, value, peerText, packetData⟩
  simp only [RouterPacket.decodePeer, headerLength, peerLengthSize, prefixed, text, if_neg fits]

end Decode

structure Reader (Addr : Type) where
  session : RouterSession Addr
  relay : UdpRelay Addr
  stream : Bytes

namespace Reader

variable {Addr : Type}

def awaited (session : RouterSession Addr) : Option (Nat × Nat) :=
  match session.pending.findIdx? fun op => op.readSize.isSome with
  | none => none
  | some index => (session.pending[index]?.bind SessionOp.readSize).map fun size => (index, size)

variable [AsioAddress Addr]

def next (raw : CharArray payloadCapacity) (reader : Reader Addr) : Except Fault (Option (Reader Addr)) :=
  match awaited reader.session with
  | none => .ok none
  | some (index, size) =>
      if reader.stream.length < size then .ok none
      else match reader.session.complete index (.read false (reader.stream.take size)) with
        | none => .ok none
        | some (session, packet) =>
            (reader.relay.handOver raw packet).map fun relay => some ⟨session, relay, reader.stream.drop size⟩

-- memory is what the copies in the queue find in their fresh storage.
def readLoop (memory : Nat → CharArray payloadCapacity) : Nat → Reader Addr → Except Fault (Reader Addr)
  | 0, reader => .ok reader
  | fuel + 1, reader =>
      match reader.next (memory reader.relay.received.length) with
      | .error fault => .error fault
      | .ok none => .ok reader
      | .ok (some next) => readLoop memory fuel next

omit [AsioAddress Addr] in
theorem awaited_last (session : RouterSession Addr) (others : List (SessionOp Addr)) (op : SessionOp Addr) (size : Nat)
    (pending : session.pending = others ++ [op]) (unread : ∀ other ∈ others, other.readSize = none)
    (reads : op.readSize = some size) : awaited session = some (others.length, size) := by
  have found : session.pending.findIdx? (fun op => op.readSize.isSome) = some others.length := by
    have none : others.findIdx? (fun op => op.readSize.isSome) = none := by
      rw [List.findIdx?_eq_none_iff]
      intro other member
      simp [unread other member]
    simp [pending, List.findIdx?_append, none, List.findIdx?_cons, reads]
  have place : session.pending[others.length]? = some op := by simp [pending]
  simp only [awaited, found, place, Option.bind_some, reads, Option.map_some]

theorem next_read (raw : CharArray payloadCapacity) (reader : Reader Addr) (others : List (SessionOp Addr)) (op : SessionOp Addr)
    (text rest : Bytes) (session : RouterSession Addr) (packet : Option RouterPacket)
    (pending : reader.session.pending = others ++ [op]) (unread : ∀ other ∈ others, other.readSize = none)
    (reads : op.readSize = some text.length) (stream : reader.stream = text ++ rest)
    (handled : ({ reader.session with pending := others } : RouterSession Addr).handle op (.read false text) =
      some (session, packet)) :
    reader.next raw = (reader.relay.handOver raw packet).map fun relay => some ⟨session, relay, rest⟩ := by
  have awaits := awaited_last reader.session others op text.length pending unread reads
  have found : reader.session.pending[others.length]? = some op := by simp [pending]
  have erased : reader.session.pending.eraseIdx others.length = others := by
    rw [pending, List.eraseIdx_append_of_length_le (Nat.le_refl _)]
    simp
  have completed : reader.session.complete others.length (.read false text) = some (session, packet) := by
    simp only [RouterSession.complete, found, RouterSession.finishOp, erased, handled]
  have enough : ¬ reader.stream.length < text.length := by
    rw [stream, List.length_append]
    omega
  have taken : reader.stream.take text.length = text := by rw [stream, List.take_left]
  have dropped : reader.stream.drop text.length = rest := by rw [stream, List.drop_left]
  simp only [next, awaits, if_neg enough, taken, dropped, completed]

theorem next_header (raw : CharArray payloadCapacity) (reader : Reader Addr) (others : List (SessionOp Addr)) (length : Nat)
    (rest : Bytes) (small : length ≤ 1024) (pending : reader.session.pending = others ++ [.readHeader])
    (unread : ∀ other ∈ others, other.readSize = none) (stream : reader.stream = printfD 4 length ++ rest) :
    ∃ session, reader.next raw = .ok (some ⟨session, reader.relay, rest⟩) ∧
      session.pending = others ++ [.readPayload length] ∧ session.fromTcpPacket.payloadLength.toNat = length ∧
      session.started = reader.session.started ++ [.readPayload length] := by
  have textLength : (printfD 4 length).length = 4 := printf_d_length 4 length (by decide) (by omega)
  obtain ⟨decoded, decodes, value⟩ := decode_read_header reader.session.fromTcpPacket length small
  refine ⟨{ reader.session with
    fromTcpPacket := decoded
    pending := others ++ [.readPayload length]
    started := reader.session.started ++ [.readPayload length] }, ?_, rfl, value, rfl⟩
  have fits : RouterSession.readFits headerLength false (printfD 4 length) = true := by
    simp [RouterSession.readFits, textLength]
  refine next_read raw reader others .readHeader (printfD 4 length) rest _ none pending unread ?_ stream ?_
  · rw [textLength]
    rfl
  · simp only [RouterSession.handle, if_pos fits, RouterSession.handleReadHeader, RouterSession.storeRead, textLength, decodes]
    simp [RouterSession.startOp, value]

theorem next_payload (raw : CharArray payloadCapacity) (reader : Reader Addr) (others : List (SessionOp Addr))
    (peer data rest : Bytes) (short : peer.length + data.length ≤ 1020)
    (pending : reader.session.pending = others ++ [.readPayload (data.length + peer.length + 4)])
    (unread : ∀ other ∈ others, other.readSize = none)
    (length : reader.session.fromTcpPacket.payloadLength.toNat = data.length + peer.length + 4)
    (stream : reader.stream = printfD 4 peer.length ++ (peer ++ data) ++ rest) :
    ∃ session packet, reader.next raw = (reader.relay.handleFrame raw packet).map (fun relay => some ⟨session, relay, rest⟩) ∧
      Holds packet peer data ∧ session.pending = others ++ [.readHeader] ∧
      session.started = reader.session.started ++ [.readHeader] := by
  have textLength : (printfD 4 peer.length).length = 4 := printf_d_length 4 peer.length (by decide) (by omega)
  have bodyLength : (printfD 4 peer.length ++ (peer ++ data)).length = data.length + peer.length + 4 := by
    simp only [List.length_append, textLength]
    omega
  obtain ⟨decoded, decodes, holds⟩ := decode_read_payload reader.session.fromTcpPacket peer data short length
  refine ⟨{ reader.session with
    fromTcpPacket := decoded.clear
    pending := others ++ [.readHeader]
    started := reader.session.started ++ [.readHeader] }, decoded, ?_, holds, rfl, rfl⟩
  have fits : RouterSession.readFits (data.length + peer.length + 4) false (printfD 4 peer.length ++ (peer ++ data)) = true := by
    simp only [RouterSession.readFits, bodyLength]
    simp
  have nonempty : ¬ data.length + peer.length + 4 = 0 := by omega
  refine next_read raw reader others _ (printfD 4 peer.length ++ (peer ++ data)) rest _ (some decoded) pending unread ?_ stream ?_
  · rw [bodyLength]
    rfl
  · simp only [RouterSession.handle, if_pos fits, RouterSession.handleReadPayload, RouterSession.storeRead, bodyLength,
      if_neg nonempty, headerLength, decodes]
    simp [RouterSession.startReadFromTcp, RouterSession.startOp]

end Reader

section Carried

variable {Addr : Type} [AsioAddress Addr]

structure Carries (reply : Reply) (peer : Endpoint Addr) (data : Bytes) : Prop where
  addressed : ∃ text ip port, reply.packet.getPeerData 128 = some text ∧ splitAddr text 32 8 = some (ip, port) ∧
    AsioAddress.fromText ip = some peer.adr ∧ atoi port = peer.port.toNat
  packetData : reply.packet.payload.slice reply.packet.packetDataOffset reply.packet.packetDataLength.toNat = data

theorem carries_deliverable (reply : Reply) (peer : Endpoint Addr) (data : Bytes) (carries : Carries reply peer data) :
    Deliverable Addr reply := by
  obtain ⟨text, ip, port, read, cut, parsed, _⟩ := carries.addressed
  exact ⟨_, by simp only [Reply.address, read, cut, parsed]; rfl⟩

def Endpoint.udpTuple (peer : Endpoint Addr) : AdrTuple Addr := ⟨.udp, peer.adr, peer.port.toUInt32⟩

theorem holds_carries (dotted : DottedDecimal Addr) (peer : Endpoint Addr) (v4 : AsioAddress.isV4 peer.adr = true)
    (reply : Reply) (data : Bytes) (holds : Holds reply.packet peer.udpTuple.toText data) : Carries reply peer data := by
  have portValue : peer.udpTuple.port.toNat = peer.port.toNat := by simp [Endpoint.udpTuple]
  have portSmall : peer.udpTuple.port.toNat < 65536 := portValue ▸ peer.port.toNat_lt
  obtain ⟨nonempty, textShort⟩ := peer_text_length dotted peer.udpTuple v4 portSmall
  have accepted : 0 < reply.packet.peerLength ∧ reply.packet.peerLength < 128 := by
    rw [UInt32.lt_iff_toNat_lt, UInt32.lt_iff_toNat_lt, holds.peerLength]
    simp only [UInt32.reduceToNat]
    omega
  have text : strncat [] peer.udpTuple.toText peer.udpTuple.toText.length = peer.udpTuple.toText :=
    strncat_empty _ _ rfl (peer_text_no_nul dotted peer.udpTuple v4)
  refine ⟨⟨peer.udpTuple.toText, AsioAddress.toText peer.adr, decimal peer.udpTuple.port.toNat, ?_,
    split_peer_text dotted peer.udpTuple v4 portSmall, dotted.parsed peer.adr v4, ?_⟩, ?_⟩
  · simp only [RouterPacket.getPeerData, if_pos accepted, holds.peerLength, headerLength, peerLengthSize, Nat.reduceAdd,
      holds.peerText, text]
  · rw [atoi_decimal _ (by omega), portValue]
  · have bound := reply.packet.payloadLength.toNat_lt
    rw [holds.payloadLength] at bound
    have dataLength : reply.packet.packetDataLength.toNat = data.length := by
      rw [RouterPacket.packetDataLength, UInt32.toNat_sub, UInt32.toNat_sub, holds.payloadLength, holds.peerLength]
      simp only [UInt32.reduceToNat]
      omega
    rw [dataLength, RouterPacket.packetDataOffset, holds.peerLength]
    exact holds.packetData

namespace UdpRelay

theorem deliver_deliverable (relay : UdpRelay Addr) (front : Reply) (rest : List Reply)
    (queue : relay.tcpPacketQueue = front :: rest) (deliverable : Deliverable Addr front) :
    ∃ send : SendTo Addr, relay.deliverFront = .ok (relay.asyncSendTo send) := by
  obtain ⟨send, addressed⟩ := deliverable
  exact ⟨send, by simp only [deliverFront, queue, addressed]⟩

theorem handle_frame_appends (relay : UdpRelay Addr) (raw : CharArray payloadCapacity) (packet : RouterPacket)
    (deliverable : ∀ reply ∈ relay.tcpPacketQueue, Deliverable Addr reply)
    (fresh : Deliverable Addr (relay.newReply raw packet)) :
    ∃ next : UdpRelay Addr, relay.handleFrame raw packet = .ok next ∧
      next.tcpPacketQueue = relay.tcpPacketQueue ++ [relay.newReply raw packet] := by
  cases queue : relay.tcpPacketQueue with
  | nil =>
      have pushed := push_empty relay raw packet queue
      obtain ⟨send, delivered⟩ := deliver_deliverable _ _ [] pushed fresh
      refine ⟨(relay.pushTcpPacket raw packet).asyncSendTo send, ?_, pushed⟩
      simp only [handleFrame, addTcpPacket, queue, List.isEmpty_nil, Bool.true_eq_false, if_false, Except.bind,
        deliverToUdpPeerOfSession]
      exact delivered
  | cons front rest =>
      have pushed := push_cons relay raw packet front rest queue
      have frontDeliverable := deliverable front (by simp [queue])
      obtain ⟨first, firstDelivered⟩ := deliver_deliverable _ front _ pushed frontDeliverable
      obtain ⟨second, secondDelivered⟩ :=
        deliver_deliverable ((relay.pushTcpPacket raw packet).asyncSendTo first) front _ pushed frontDeliverable
      refine ⟨((relay.pushTcpPacket raw packet).asyncSendTo first).asyncSendTo second, ?_, pushed⟩
      simp only [handleFrame, addTcpPacket, queue, List.isEmpty_cons, if_true, deliverToUdpPeer, firstDelivered, Except.bind,
        deliverToUdpPeerOfSession]
      exact secondDelivered

end UdpRelay

-- A datagram with its sender, and what the copy of its packet finds in the memory of
-- the session's queue.
structure Datagram (Addr : Type) where
  peer : Endpoint Addr
  data : Bytes
  raw : CharArray payloadCapacity

namespace Datagram

structure Fits (datagram : Datagram Addr) : Prop where
  v4 : AsioAddress.isV4 datagram.peer.adr = true
  short : datagram.peer.udpTuple.toText.length + datagram.data.length ≤ 1020

def frame (datagram : Datagram Addr) : Bytes :=
  (RouterPacket.copyConstruct datagram.raw (udpPacket datagram.peer.udpTuple datagram.data)).data

end Datagram

-- The session waits for a header, besides anything that is not a read, and has started
-- only reads since the stream began.
structure Awaiting (before after : RouterSession Addr) (others : List (SessionOp Addr)) : Prop where
  pending : after.pending = others ++ [.readHeader]
  reads : ∃ reads : List (SessionOp Addr), after.started = before.started ++ reads ∧ ∀ op ∈ reads, op.readSize ≠ none

open Reader in
theorem read_frame (dotted : DottedDecimal Addr) (memory : Nat → CharArray payloadCapacity) (datagram : Datagram Addr)
    (fits : datagram.Fits) (start : RouterSession Addr) (reader : Reader Addr) (others : List (SessionOp Addr)) (rest : Bytes)
    (unread : ∀ other ∈ others, other.readSize = none) (waiting : Awaiting start reader.session others)
    (deliverable : ∀ reply ∈ reader.relay.tcpPacketQueue, Deliverable Addr reply)
    (stream : reader.stream = datagram.frame ++ rest) :
    ∃ (after : Reader Addr) (reply : Reply), (∀ fuel, readLoop memory (fuel + 2) reader = readLoop memory fuel after) ∧
      after.stream = rest ∧ Awaiting start after.session others ∧
      after.relay.tcpPacketQueue = reader.relay.tcpPacketQueue ++ [reply] ∧ Carries reply datagram.peer datagram.data := by
  have short := fits.short
  have bytes : reader.stream = printfD 4 (datagram.data.length + datagram.peer.udpTuple.toText.length + 4 : Nat) ++
      (printfD 4 datagram.peer.udpTuple.toText.length ++ (datagram.peer.udpTuple.toText ++ datagram.data) ++ rest) := by
    rw [stream, Datagram.frame, udp_packet_data _ _ _ short]
    simp only [List.append_assoc]
  obtain ⟨reads, started, onlyReads⟩ := waiting.reads
  obtain ⟨headed, readHeader, headedPending, length, headedStarted⟩ :=
    next_header (memory reader.relay.received.length) reader others _ _ (by omega) waiting.pending unread bytes
  obtain ⟨after, packet, readPayload, holds, afterPending, afterStarted⟩ :=
    next_payload (memory reader.relay.received.length) ⟨headed, reader.relay, _⟩ others _ _ rest short headedPending unread
      length rfl
  have carries : Carries (reader.relay.newReply (memory reader.relay.received.length) packet) datagram.peer datagram.data :=
    holds_carries dotted datagram.peer fits.v4 _ _ (holds_copy _ packet _ _ short holds)
  obtain ⟨relay, handled, queue⟩ := UdpRelay.handle_frame_appends reader.relay (memory reader.relay.received.length) packet
    deliverable (carries_deliverable _ _ _ carries)
  refine ⟨⟨after, relay, rest⟩, _, ?_, rfl, ⟨afterPending,
    reads ++ [.readPayload (datagram.data.length + datagram.peer.udpTuple.toText.length + 4), .readHeader], ?_, ?_⟩, queue, carries⟩
  · intro fuel
    simp only [readLoop, readHeader, readPayload, handled]
    rfl
  · rw [afterStarted, headedStarted, started]
    simp
  · intro op member
    rcases List.mem_append.mp member with old | new
    · exact onlyReads op old
    · simp only [List.mem_cons, List.not_mem_nil, or_false] at new
      rcases new with rfl | rfl <;> simp [SessionOp.readSize]

theorem read_frames (dotted : DottedDecimal Addr) (memory : Nat → CharArray payloadCapacity)
    (datagrams : List (Datagram Addr)) (fits : ∀ datagram ∈ datagrams, datagram.Fits) (start : RouterSession Addr)
    (reader : Reader Addr) (others : List (SessionOp Addr)) (unread : ∀ other ∈ others, other.readSize = none)
    (waiting : Awaiting start reader.session others)
    (deliverable : ∀ reply ∈ reader.relay.tcpPacketQueue, Deliverable Addr reply)
    (stream : reader.stream = (datagrams.map Datagram.frame).flatten) :
    ∃ (after : Reader Addr) (replies : List Reply),
      (∀ fuel, 2 * datagrams.length ≤ fuel → Reader.readLoop memory fuel reader = .ok after) ∧
      after.stream = [] ∧ Awaiting start after.session others ∧
      after.relay.tcpPacketQueue = reader.relay.tcpPacketQueue ++ replies ∧
      List.Forall₂ (fun datagram reply => Carries reply datagram.peer datagram.data) datagrams replies := by
  induction datagrams generalizing reader with
  | nil =>
      have empty : reader.stream = [] := stream
      refine ⟨reader, [], ?_, empty, waiting, (List.append_nil _).symm, .nil⟩
      intro fuel _
      cases fuel with
      | zero => rfl
      | succ fuel =>
          have awaits := Reader.awaited_last reader.session others .readHeader 4 waiting.pending unread rfl
          have starved : reader.next (memory reader.relay.received.length) = .ok none := by
            simp [Reader.next, awaits, empty]
          simp only [Reader.readLoop, starved]
  | cons datagram later ih =>
      obtain ⟨middle, reply, reads, middleStream, middleWaiting, middleQueue, carries⟩ :=
        read_frame dotted memory datagram (fits datagram (by simp)) start reader others (later.map Datagram.frame).flatten
          unread waiting deliverable stream
      have middleDeliverable : ∀ other ∈ middle.relay.tcpPacketQueue, Deliverable Addr other := by
        intro other member
        rw [middleQueue] at member
        rcases List.mem_append.mp member with old | new
        · exact deliverable other old
        · rw [List.mem_singleton.mp new]
          exact carries_deliverable reply _ _ carries
      obtain ⟨after, replies, ran, ended, afterWaiting, queue, all⟩ :=
        ih (fun other member => fits other (by simp [member])) middle middleWaiting middleDeliverable middleStream
      refine ⟨after, reply :: replies, ?_, ended, afterWaiting, ?_, .cons carries all⟩
      · intro fuel enough
        rw [List.length_cons] at enough
        obtain ⟨less, rfl⟩ : ∃ less, fuel = less + 2 := ⟨fuel - 2, by omega⟩
        rw [reads less]
        exact ran less (by omega)
      · rw [queue, middleQueue, List.append_assoc]
        rfl

-- The stream of the frames of any list of datagrams is read to its end, without a
-- close, into one reply for each of them, in order.
theorem frames_round_trip (dotted : DottedDecimal Addr) (memory : Nat → CharArray payloadCapacity)
    (datagrams : List (Datagram Addr)) (fits : ∀ datagram ∈ datagrams, datagram.Fits) (session : RouterSession Addr)
    (relay : UdpRelay Addr) (others : List (SessionOp Addr)) (pending : session.pending = others ++ [.readHeader])
    (unread : ∀ other ∈ others, other.readSize = none) (deliverable : ∀ reply ∈ relay.tcpPacketQueue, Deliverable Addr reply) :
    ∃ (after : Reader Addr) (replies : List Reply),
      (∀ fuel, 2 * datagrams.length ≤ fuel →
        Reader.readLoop memory fuel ⟨session, relay, (datagrams.map Datagram.frame).flatten⟩ = .ok after) ∧
      after.stream = [] ∧ Awaiting session after.session others ∧
      after.relay.tcpPacketQueue = relay.tcpPacketQueue ++ replies ∧
      List.Forall₂ (fun datagram reply => Carries reply datagram.peer datagram.data) datagrams replies :=
  read_frames dotted memory datagrams fits session ⟨session, relay, _⟩ others unread
    ⟨pending, [], (List.append_nil _).symm, by simp⟩ deliverable rfl

end Carried

def awkwardDatagrams : List (Datagram Ipv4) :=
  [⟨⟨.ofOctets 1 2 3 4, 5⟩, [], CharArray.zeroed⟩, ⟨⟨.ofOctets 192 168 1 1, 65535⟩, [0, 32, 58, 49], CharArray.zeroed⟩]

theorem frames_round_trip_awkward :
    ∃ (after : Reader Ipv4) (replies : List Reply),
      (∀ fuel, 4 ≤ fuel → Reader.readLoop (fun _ => CharArray.zeroed) fuel
        ⟨(RouterSession.create samplePeer).startReadFromTcp, .create, (awkwardDatagrams.map Datagram.frame).flatten⟩ = .ok after) ∧
      after.stream = [] ∧ Awaiting (RouterSession.create samplePeer).startReadFromTcp after.session [] ∧
      after.relay.tcpPacketQueue = replies ∧
      List.Forall₂ (fun datagram reply => Carries reply datagram.peer datagram.data) awkwardDatagrams replies := by
  have fits : ∀ datagram ∈ awkwardDatagrams, datagram.Fits := by
    intro datagram member
    simp only [awkwardDatagrams, List.mem_cons, List.not_mem_nil, or_false] at member
    rcases member with rfl | rfl
    · exact ⟨rfl, by decide⟩
    · exact ⟨rfl, by decide⟩
  exact frames_round_trip Ipv4.dotted_decimal (fun _ => CharArray.zeroed) awkwardDatagrams fits
    (RouterSession.create samplePeer).startReadFromTcp .create [] rfl (by simp) (by simp [UdpRelay.create])

end Rart
