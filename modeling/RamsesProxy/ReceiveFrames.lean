import RamsesProxy.ReceiveBuffer

set_option autoImplicit false

namespace Rart

open CText

section Bounds

structure ReplyWithin (packet : RouterPacket) : Prop where
  peer : headerLength + peerLengthSize + packet.peerLength.toNat ≤ payloadCapacity
  data : packet.packetDataOffset ≤ payloadCapacity
  copied : packet.copyLength ≤ payloadCapacity
  text : ∀ text, packet.getPeerData 128 = some text → text.length + 1 ≤ 128

theorem peer_text_short (packet : RouterPacket) (text : Bytes) (read : packet.getPeerData 128 = some text) :
    text.length + 1 ≤ 128 := by
  simp only [RouterPacket.getPeerData, Option.ite_none_right_eq_some, Option.some.injEq] at read
  obtain ⟨⟨_, short⟩, rfl⟩ := read
  rw [UInt32.lt_iff_toNat_lt] at short
  simp only [UInt32.reduceToNat] at short
  have cut : ∀ bytes : Bytes, (strncat [] bytes packet.peerLength.toNat).length ≤ packet.peerLength.toNat := by
    intro bytes
    have shortened := (List.takeWhile_prefix (p := (· != 0)) (l := bytes.take packet.peerLength.toNat)).length_le
    simp only [strncat, cstr, List.nil_append]
    rw [List.length_take] at shortened
    omega
  have shortened := cut (packet.payload.slice (headerLength + peerLengthSize) packet.peerLength.toNat)
  omega

theorem reply_within (packet : RouterPacket) (bounded : packet.payloadLength.toNat ≤ 1024)
    (below : packet.peerLength.toNat ≤ packet.payloadLength.toNat) : ReplyWithin packet where
  peer := by
    simp only [headerLength, peerLengthSize, payloadCapacity, maxPayloadSize]
    omega
  data := by
    simp only [RouterPacket.packetDataOffset, headerLength, peerLengthSize, payloadCapacity, maxPayloadSize]
    omega
  copied := by
    rw [RouterPacket.copy_length_exact packet (by rw [UInt32.le_iff_toNat_le]; exact bounded)]
    simp only [headerLength, peerLengthSize, payloadCapacity, maxPayloadSize]
    omega
  text := peer_text_short packet

end Bounds

section Receive

variable {Addr : Type}

structure ReceivesWithin (session : RouterSession Addr) : Prop where
  payloadRead : ∀ size, SessionOp.readPayload size ∈ session.started → headerLength + size ≤ payloadCapacity
  announced : ∀ size, SessionOp.readPayload size ∈ session.pending → size = session.fromTcpPacket.payloadLength.toNat
  badHeader : ∀ index header after packet, session.pending[index]? = some .readHeader →
    session.complete index (.read false header) = some (after, packet) →
    atoi (strncat [] header headerLength) < 0 ∨ 1024 < atoi (strncat [] header headerLength) →
    after.pending = (session.finishOp index).pending ++ [.close] ∧ after.fromTcpPacket.payloadLength = 0
  reply : ∀ index error bytes after packet, session.complete index (.read error bytes) = some (after, some packet) →
    ReplyWithin packet

theorem bad_header_closes (session after : RouterSession Addr) (index : Nat) (header : Bytes) (packet : Option RouterPacket)
    (found : session.pending[index]? = some .readHeader)
    (completed : session.complete index (.read false header) = some (after, packet))
    (bad : atoi (strncat [] header headerLength) < 0 ∨ 1024 < atoi (strncat [] header headerLength)) :
    after.pending = (session.finishOp index).pending ++ [.close] ∧ after.fromTcpPacket.payloadLength = 0 := by
  have handled := RouterSession.complete_found _ _ _ _ _ _ found completed
  cases RouterSession.handled_of_handle handled with
  | readHeader _ _ fits =>
      have length : header.length = 4 := RouterSession.read_fits_whole headerLength header fits
      have stored : (((session.finishOp index).storeRead 0 header).fromTcpPacket.payload.slice 0 headerLength) = header := by
        have copied := CharArray.slice_memcpy session.fromTcpPacket.payload 0 header
          (by simp only [length, payloadCapacity, headerLength, peerLengthSize, maxPayloadSize]; omega)
        rwa [length] at copied
      have value : ((session.finishOp index).storeRead 0 header).fromTcpPacket.headerValue = atoi (strncat [] header headerLength) := by
        rw [RouterPacket.headerValue, stored]
      rw [← value] at bad
      have refused := RouterPacket.decode_header_refuses _ bad
      simp only [RouterSession.handleReadHeader, length, refused, OfNat.ofNat_ne_zero, if_false, if_true, Bool.false_eq_true]
      exact ⟨rfl, rfl⟩

theorem reply_packet_within (session after : RouterSession Addr) (index : Nat) (error : Bool) (bytes : Bytes) (packet : RouterPacket)
    (receiving : Receiving session) (completed : session.complete index (.read error bytes) = some (after, some packet)) :
    ReplyWithin packet := by
  obtain ⟨op, found, handled⟩ := RouterSession.complete_some _ _ _ _ _ completed
  cases op with
  | resolve | connect _ _ | write _ | close => cases handled
  | readHeader => simp [RouterSession.handle] at handled
  | readPayload size =>
      obtain ⟨header, accepted, _⟩ := receiving.payload size (List.mem_of_getElem? found)
      obtain ⟨high, value, _⟩ := RouterPacket.decode_header_bounds _ _ accepted
      simp only [RouterSession.handle, Option.ite_none_right_eq_some, Option.some.injEq] at handled
      obtain ⟨_, same⟩ := handled
      rcases payload_buffer ((session.finishOp index).storeRead headerLength bytes) error bytes.length with
        ⟨_, _, _, none⟩ | ⟨decoded, decodes, outcome⟩
      · rw [same] at none
        cases none
      · obtain ⟨_, given⟩ := Prod.mk.inj (outcome.symm.trans same)
        obtain rfl := Option.some.inj given
        have bounded : ((session.finishOp index).storeRead headerLength bytes).fromTcpPacket.payloadLength.toNat ≤ 1024 := by
          change session.fromTcpPacket.payloadLength.toNat ≤ 1024
          omega
        obtain ⟨below, peer, length, _⟩ := RouterPacket.decode_peer_bounds _ decoded bounded decodes
        apply reply_within
        · rw [length]
          exact bounded
        · rw [length]
          omega

theorem receives_within (tuple : AdrTuple Addr) (run : SessionRun Addr)
    (reached : Machine.Reachable SessionRun.step (.create tuple) run) : ReceivesWithin run.session := by
  have receiving := reachable_receiving tuple run reached
  refine ⟨fun size member => ?_, fun size member => ?_, ?_, ?_⟩
  · have bounded := receiving.sizes size member
    simp only [headerLength, peerLengthSize, payloadCapacity, maxPayloadSize] at bounded ⊢
    omega
  · obtain ⟨_, _, announced⟩ := receiving.payload size member
    exact announced
  · exact fun index header after packet => bad_header_closes run.session after index header packet
  · exact fun index error bytes after packet => reply_packet_within run.session after index error bytes packet receiving

def connected : List (SessionEvent Ipv4) :=
  [.addRouterPacket CharArray.zeroed ⟨5, 1, CharArray.zeroed⟩, .complete 0 (.resolved (.found ⟨.ofOctets 127 0 0 1, 3500⟩ [])),
    .complete 0 (.connected false)]

theorem receives_within_negative_header :
    ∃ run, Machine.run SessionRun.step (.create ⟨.udp, Ipv4.ofOctets 10 0 0 7, 2036⟩) connected = some run ∧
      ReceivesWithin run.session ∧ ∃ after packet, run.session.complete 1 (.read false [32, 45, 49, 50]) = some (after, packet) ∧
        after.pending = (run.session.finishOp 1).pending ++ [.close] ∧ after.fromTcpPacket.payloadLength = 0 := by
  obtain ⟨run, after, packet, ran, found, completed⟩ : ∃ run after packet,
      Machine.run SessionRun.step (.create ⟨.udp, Ipv4.ofOctets 10 0 0 7, 2036⟩) connected = some run ∧
      run.session.pending[1]? = some .readHeader ∧ run.session.complete 1 (.read false [32, 45, 49, 50]) = some (after, packet) :=
    ⟨_, _, _, rfl, rfl, rfl⟩
  have within := receives_within _ run ⟨_, ran⟩
  exact ⟨run, ran, within, after, packet, completed, within.badHeader 1 _ after packet found completed (.inl (by decide))⟩

end Receive

section Isolation

variable {Addr : Type}

def SessionEvent.isRead : SessionEvent Addr → Bool
  | .complete _ (.read _ _) => true
  | .complete _ (.resolved _) | .complete _ (.connected _) | .complete _ (.written _) | .complete _ .posted => false
  | .addRouterPacket _ _ => false

-- The next frame the session reads: a header, the payload it announces, and in between
-- whatever else happens to the session.
def ReadsFrame (run waiting : SessionRun Addr) (header payload : Bytes) (packet : Option RouterPacket) : Prop :=
  ∃ first headed between second size after, run.session.pending[first]? = some .readHeader ∧
    run.step (.complete first (.read false header)) = some headed ∧ (∀ event ∈ between, event.isRead = false) ∧
    Machine.run SessionRun.step headed between = some waiting ∧ waiting.session.pending[second]? = some (.readPayload size) ∧
    waiting.session.complete second (.read false payload) = some (after, packet)

structure QueuedAlike (left right : RouterPacket) : Prop where
  payloadLength : left.payloadLength = right.payloadLength
  peerLength : left.peerLength = right.peerLength
  bytes : left.payload.slice 0 (headerLength + peerLengthSize + left.payloadLength.toNat) =
    right.payload.slice 0 (headerLength + peerLengthSize + left.payloadLength.toNat)
  peerText : left.getPeerData 128 = right.getPeerData 128
  packetData : peerLengthSize + left.peerLength.toNat ≤ left.payloadLength.toNat →
    left.payload.slice left.packetDataOffset left.packetDataLength.toNat =
      right.payload.slice right.packetDataOffset right.packetDataLength.toNat

theorem unread_step (run next : SessionRun Addr) (event : SessionEvent Addr) (other : event.isRead = false)
    (stepped : run.step event = some next) : next.session.fromTcpPacket = run.session.fromTcpPacket := by
  cases event with
  | addRouterPacket raw packet =>
      cases stepped
      exact add_router_packet_buffer run.session raw packet
  | complete index completion =>
      obtain ⟨op, session, packet, _, handled, rfl⟩ := SessionRun.step_complete run next index completion stepped
      have unread : op.readSize = none := by
        cases RouterSession.handled_of_handle handled with
        | readHeader _ _ _ => cases other
        | readPayload _ _ _ _ => cases other
        | resolve _ | connect _ _ _ | write _ _ | close => rfl
      exact unread_buffer (run.session.finishOp index) session op completion packet unread handled

theorem unread_run (run final : SessionRun Addr) (events : List (SessionEvent Addr)) (others : ∀ event ∈ events, event.isRead = false)
    (ran : Machine.run SessionRun.step run events = some final) : final.session.fromTcpPacket = run.session.fromTcpPacket :=
  Machine.fitting_run_invariant (fun event => event.isRead = false)
    (fun state => state.session.fromTcpPacket = run.session.fromTcpPacket)
    (fun state event next other same stepped => (unread_step state next event other stepped).trans same)
    run final events rfl others ran

def frameReply (buffer : RouterPacket) (payload : Bytes) : Option RouterPacket :=
  let (decoded, accepted) := ({ buffer with payload := buffer.payload.memcpy headerLength payload } : RouterPacket).decodePeer
  if payload.length = 0 then none
  else if accepted = true then some decoded
  else none

theorem header_read_buffer (run headed : SessionRun Addr) (index : Nat) (header : Bytes)
    (found : run.session.pending[index]? = some .readHeader) (empty : run.session.fromTcpPacket = .create)
    (stepped : run.step (.complete index (.read false header)) = some headed) :
    headed.session.fromTcpPacket = (headerBuffer header).decodeHeader.1 := by
  obtain ⟨op, session, packet, otherFound, handled, rfl⟩ := SessionRun.step_complete run headed index _ stepped
  obtain rfl := Option.some.inj (found.symm.trans otherFound)
  cases RouterSession.handled_of_handle handled with
  | readHeader _ _ fits =>
      have length : header.length = 4 := RouterSession.read_fits_whole headerLength header fits
      have stored := header_buffer_store (run.session.finishOp index) header empty
      simp only [SessionRun.record, RouterSession.handleReadHeader, length, OfNat.ofNat_ne_zero, if_false, if_true, stored]
      split <;> rfl

theorem payload_read_reply (session after : RouterSession Addr) (index size : Nat) (payload : Bytes) (packet : Option RouterPacket)
    (found : session.pending[index]? = some (.readPayload size))
    (completed : session.complete index (.read false payload) = some (after, packet)) :
    packet = frameReply session.fromTcpPacket payload ∧ payload.length = size := by
  have handled := RouterSession.complete_found _ _ _ _ _ _ found completed
  cases RouterSession.handled_of_handle handled with
  | readPayload _ _ _ fits =>
      refine ⟨?_, RouterSession.read_fits_whole size payload fits⟩
      simp only [RouterSession.handleReadPayload, frameReply, if_true]
      by_cases none : payload.length = 0
      · simp only [if_pos none]
      · simp only [if_neg none, RouterSession.storeRead, RouterSession.finishOp]
        split <;> rfl

theorem queued_alike (packet : RouterPacket) (leftRaw rightRaw : CharArray payloadCapacity) (bounded : packet.payloadLength ≤ 1024)
    (nonempty : 0 < packet.payloadLength) (below : packet.peerLength.toNat ≤ packet.payloadLength.toNat) :
    QueuedAlike (.copyConstruct leftRaw packet) (.copyConstruct rightRaw packet) := by
  have bytes : (RouterPacket.copyConstruct leftRaw packet).payload.slice 0 (8 + packet.payloadLength.toNat) =
      (RouterPacket.copyConstruct rightRaw packet).payload.slice 0 (8 + packet.payloadLength.toNat) := by
    have left := RouterPacket.copy_slice ⟨0, 0, leftRaw⟩ packet 0 (8 + packet.payloadLength.toNat) bounded nonempty (by omega)
    have right := RouterPacket.copy_slice ⟨0, 0, rightRaw⟩ packet 0 (8 + packet.payloadLength.toNat) bounded nonempty (by omega)
    exact left.trans right.symm
  refine ⟨rfl, rfl, bytes, ?_, fun fits => ?_⟩
  · have text := CharArray.slice_part _ _ _ (headerLength + peerLengthSize) packet.peerLength.toNat bytes
      (by simp only [headerLength, peerLengthSize]; omega)
    have lengths : ∀ raw, (RouterPacket.copyConstruct raw packet).peerLength = packet.peerLength := fun _ => rfl
    simp only [RouterPacket.getPeerData, lengths, text]
  · have inside := (RouterPacket.consistent_of_fits (.copyConstruct leftRaw packet) fits).inside.2
    exact CharArray.slice_part _ _ _ _ _ bytes (by simp only [headerLength] at inside; exact Nat.le_trans inside (by
      change 4 + packet.payloadLength.toNat ≤ 8 + packet.payloadLength.toNat
      omega))

theorem reads_frame_decoded (tuple : AdrTuple Addr) (run waiting : SessionRun Addr) (header payload : Bytes)
    (packet : Option RouterPacket) (reached : Machine.Reachable SessionRun.step (.create tuple) run)
    (reads : ReadsFrame run waiting header payload packet) :
    waiting.session.fromTcpPacket = (headerBuffer header).decodeHeader.1 ∧
      packet = frameReply (headerBuffer header).decodeHeader.1 payload ∧
      waiting.session.fromTcpPacket.payloadLength.toNat = payload.length ∧
      waiting.session.fromTcpPacket.payloadLength.toNat ≤ 1024 := by
  obtain ⟨first, headed, between, second, size, after, found, stepped, others, ran, waits, completed⟩ := reads
  have empty := (reachable_receiving tuple run reached).header (List.mem_of_getElem? found)
  have buffer : waiting.session.fromTcpPacket = (headerBuffer header).decodeHeader.1 :=
    (unread_run headed waiting between others ran).trans (header_read_buffer run headed first header found empty stepped)
  obtain ⟨events, ranBefore⟩ := Machine.reachable_step _ run headed _ reached stepped
  have waitingReached : Machine.Reachable SessionRun.step (.create tuple) waiting :=
    ⟨events ++ between, by rw [Machine.run_append, ranBefore]; exact ran⟩
  obtain ⟨other, accepted, announced⟩ := (reachable_receiving tuple waiting waitingReached).payload size (List.mem_of_getElem? waits)
  obtain ⟨high, value, _⟩ := RouterPacket.decode_header_bounds _ _ accepted
  obtain ⟨reply, length⟩ := payload_read_reply waiting.session after second size payload packet waits completed
  rw [buffer] at reply
  exact ⟨buffer, reply, by omega, by omega⟩

theorem frame_reply_lengths (buffer frame : RouterPacket) (payload : Bytes) (bounded : buffer.payloadLength.toNat ≤ 1024)
    (length : buffer.payloadLength.toNat = payload.length) (replied : frameReply buffer payload = some frame) :
    frame.payloadLength ≤ 1024 ∧ 0 < frame.payloadLength ∧ frame.peerLength.toNat ≤ frame.payloadLength.toNat := by
  cases decoded : ({ buffer with payload := buffer.payload.memcpy headerLength payload } : RouterPacket).decodePeer with
  | mk packet accepted =>
      simp only [frameReply, decoded, Option.ite_none_left_eq_some, Option.ite_none_right_eq_some, Option.some.injEq] at replied
      obtain ⟨nonempty, rfl, rfl⟩ := replied
      obtain ⟨below, peer, same, _⟩ := RouterPacket.decode_peer_bounds
        { buffer with payload := buffer.payload.memcpy headerLength payload } packet bounded decoded
      change _ ≤ (buffer.payloadLength.toNat : Int) at below
      change packet.payloadLength = buffer.payloadLength at same
      rw [UInt32.le_iff_toNat_le, UInt32.lt_iff_toNat_lt, same]
      simp only [UInt32.reduceToNat]
      omega

-- Two sessions, or two histories of one, that read the same frame decode it alike.
theorem frames_decoded_alone (leftTuple rightTuple : AdrTuple Addr) (left right : SessionRun Addr)
    (leftReached : Machine.Reachable SessionRun.step (.create leftTuple) left)
    (rightReached : Machine.Reachable SessionRun.step (.create rightTuple) right) :
    (SessionOp.readHeader ∈ left.session.pending → SessionOp.readHeader ∈ right.session.pending → ∀ header,
      (left.session.storeRead 0 header).fromTcpPacket.decodeHeader = (right.session.storeRead 0 header).fromTcpPacket.decodeHeader) ∧
    ∀ header payload leftWaiting rightWaiting leftPacket rightPacket, ReadsFrame left leftWaiting header payload leftPacket →
      ReadsFrame right rightWaiting header payload rightPacket →
      (leftWaiting.session.storeRead headerLength payload).fromTcpPacket.decodePeer =
        (rightWaiting.session.storeRead headerLength payload).fromTcpPacket.decodePeer ∧ leftPacket = rightPacket ∧
      ∀ leftFrame rightFrame leftRaw rightRaw, leftPacket = some leftFrame → rightPacket = some rightFrame →
        QueuedAlike (.copyConstruct leftRaw leftFrame) (.copyConstruct rightRaw rightFrame) := by
  constructor
  · intro leftWaits rightWaits header
    rw [header_buffer_store _ header ((reachable_receiving leftTuple left leftReached).header leftWaits),
      header_buffer_store _ header ((reachable_receiving rightTuple right rightReached).header rightWaits)]
  · intro header payload leftWaiting rightWaiting leftPacket rightPacket leftReads rightReads
    obtain ⟨leftBuffer, leftReply, length, bounded⟩ :=
      reads_frame_decoded leftTuple left leftWaiting header payload leftPacket leftReached leftReads
    obtain ⟨rightBuffer, rightReply, _⟩ :=
      reads_frame_decoded rightTuple right rightWaiting header payload rightPacket rightReached rightReads
    have packets : leftPacket = rightPacket := leftReply.trans rightReply.symm
    refine ⟨?_, packets, fun leftFrame rightFrame leftRaw rightRaw leftSome rightSome => ?_⟩
    · rw [RouterSession.storeRead, RouterSession.storeRead, leftBuffer, rightBuffer]
    · obtain rfl := Option.some.inj (leftSome.symm.trans (packets.trans rightSome))
      rw [leftBuffer] at length bounded
      obtain ⟨small, nonempty, below⟩ := frame_reply_lengths _ leftFrame payload bounded length (leftReply.symm.trans leftSome)
      exact queued_alike leftFrame leftRaw rightRaw small nonempty below

-- An earlier frame of two bytes, shorter than the peer length field it should hold.
def shortFrame : List (SessionEvent Ipv4) :=
  connected ++ [.complete 1 (.read false [32, 32, 32, 50]), .complete 1 (.read false [48, 120])]

theorem frames_decoded_alone_short_frame :
    ∃ left right leftWaiting rightWaiting leftFrame rightFrame,
      Machine.run SessionRun.step (.create ⟨.udp, Ipv4.ofOctets 10 0 0 7, 2036⟩) connected = some left ∧
      Machine.run SessionRun.step (.create ⟨.udp, Ipv4.ofOctets 10 0 0 7, 2036⟩) shortFrame = some right ∧
      ReadsFrame left leftWaiting [32, 32, 49, 51] [32, 32, 32, 57, 49, 46, 50, 46, 51, 46, 52, 58, 53] (some leftFrame) ∧
      ReadsFrame right rightWaiting [32, 32, 49, 51] [32, 32, 32, 57, 49, 46, 50, 46, 51, 46, 52, 58, 53] (some rightFrame) ∧
      ∀ leftRaw rightRaw, QueuedAlike (.copyConstruct leftRaw leftFrame) (.copyConstruct rightRaw rightFrame) := by
  obtain ⟨left, leftWaiting, leftFrame, leftRan, leftReads⟩ : ∃ left leftWaiting leftFrame,
      Machine.run SessionRun.step (.create ⟨.udp, Ipv4.ofOctets 10 0 0 7, 2036⟩) connected = some left ∧
      ReadsFrame left leftWaiting [32, 32, 49, 51] [32, 32, 32, 57, 49, 46, 50, 46, 51, 46, 52, 58, 53] (some leftFrame) :=
    ⟨_, _, _, rfl, 1, _, [], 1, 13, _, rfl, rfl, by simp, rfl, rfl, rfl⟩
  obtain ⟨right, rightWaiting, rightFrame, rightRan, rightReads⟩ : ∃ right rightWaiting rightFrame,
      Machine.run SessionRun.step (.create ⟨.udp, Ipv4.ofOctets 10 0 0 7, 2036⟩) shortFrame = some right ∧
      ReadsFrame right rightWaiting [32, 32, 49, 51] [32, 32, 32, 57, 49, 46, 50, 46, 51, 46, 52, 58, 53] (some rightFrame) :=
    ⟨_, _, _, rfl, 1, _, [], 1, 13, _, rfl, rfl, by simp, rfl, rfl, rfl⟩
  have alike := (frames_decoded_alone _ _ left right ⟨_, leftRan⟩ ⟨_, rightRan⟩).2 _ _ _ _ _ _ leftReads rightReads
  exact ⟨left, right, leftWaiting, rightWaiting, leftFrame, rightFrame, leftRan, rightRan, leftReads, rightReads,
    fun leftRaw rightRaw => alike.2.2 leftFrame rightFrame leftRaw rightRaw rfl rfl⟩

end Isolation

end Rart
