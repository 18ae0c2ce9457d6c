import RamsesProxy.SessionReads

set_option autoImplicit false

namespace Rart

open CText

namespace RouterPacket

def headerValue (packet : RouterPacket) : Int := atoi (strncat [] (packet.payload.slice 0 headerLength) headerLength)
def peerValue (packet : RouterPacket) : Int :=
  atoi (strncat [] (packet.payload.slice headerLength peerLengthSize) peerLengthSize)

theorem decode_header_refuses (packet : RouterPacket) (outside : packet.headerValue < 0 ∨ 1024 < packet.headerValue) :
    packet.decodeHeader = ({ packet with payloadLength := 0 }, false) := by
  have range := atoi_range (strncat [] (packet.payload.slice 0 headerLength) headerLength)
  exact if_pos ((uint32_of_int_gt packet.headerValue 1024 range.1 range.2 (by decide)).mpr outside)

theorem decode_header_accepts (packet : RouterPacket) (low : 0 ≤ packet.headerValue) (high : packet.headerValue ≤ 1024) :
    packet.decodeHeader = ({ packet with payloadLength := UInt32.ofInt packet.headerValue }, true) := by
  have range := atoi_range (strncat [] (packet.payload.slice 0 headerLength) headerLength)
  have small : ¬ UInt32.ofInt packet.headerValue > 1024 := by
    rw [uint32_of_int_gt packet.headerValue 1024 range.1 range.2 (by decide)]
    simp only [UInt32.reduceToNat]
    omega
  exact if_neg small

theorem decode_header_bounds (packet headed : RouterPacket) (accepted : packet.decodeHeader = (headed, true)) :
    packet.headerValue ≤ 1024 ∧ (headed.payloadLength.toNat : Int) = packet.headerValue ∧ headed.payload = packet.payload := by
  have range := atoi_range (strncat [] (packet.payload.slice 0 headerLength) headerLength)
  have inside : 0 ≤ packet.headerValue ∧ packet.headerValue ≤ 1024 := by
    by_contra outside
    rw [decode_header_refuses packet (by omega)] at accepted
    cases accepted
  rw [decode_header_accepts packet inside.1 inside.2] at accepted
  cases accepted
  exact ⟨inside.2, uint32_of_nonneg packet.headerValue inside.1 range.2, rfl⟩

theorem decode_peer_refuses (packet : RouterPacket) (bounded : packet.payloadLength.toNat ≤ 1024)
    (outside : packet.peerValue < 0 ∨ packet.payloadLength.toNat < packet.peerValue) :
    packet.decodePeer = ({ packet with peerLength := 0 }, false) := by
  have range := atoi_range (strncat [] (packet.payload.slice headerLength peerLengthSize) peerLengthSize)
  exact if_pos ((uint32_of_int_gt packet.peerValue packet.payloadLength range.1 range.2 (by omega)).mpr outside)

theorem decode_peer_accepts (packet : RouterPacket) (bounded : packet.payloadLength.toNat ≤ 1024) (low : 0 ≤ packet.peerValue)
    (high : packet.peerValue ≤ packet.payloadLength.toNat) :
    packet.decodePeer = ({ packet with peerLength := UInt32.ofInt packet.peerValue }, true) := by
  have range := atoi_range (strncat [] (packet.payload.slice headerLength peerLengthSize) peerLengthSize)
  have small : ¬ UInt32.ofInt packet.peerValue > packet.payloadLength := by
    rw [uint32_of_int_gt packet.peerValue packet.payloadLength range.1 range.2 (by omega)]
    omega
  exact if_neg small

theorem decode_peer_bounds (packet decoded : RouterPacket) (bounded : packet.payloadLength.toNat ≤ 1024)
    (accepted : packet.decodePeer = (decoded, true)) :
    packet.peerValue ≤ packet.payloadLength.toNat ∧ (decoded.peerLength.toNat : Int) = packet.peerValue ∧
      decoded.payloadLength = packet.payloadLength ∧ decoded.payload = packet.payload := by
  have range := atoi_range (strncat [] (packet.payload.slice headerLength peerLengthSize) peerLengthSize)
  have inside : 0 ≤ packet.peerValue ∧ packet.peerValue ≤ packet.payloadLength.toNat := by
    by_contra outside
    rw [decode_peer_refuses packet bounded (by omega)] at accepted
    cases accepted
  rw [decode_peer_accepts packet bounded inside.1 inside.2] at accepted
  cases accepted
  exact ⟨inside.2, uint32_of_nonneg packet.peerValue inside.1 range.2, rfl, rfl⟩

-- The data of the frame lies behind its peer text and before the end of its payload.
structure ConsistentLengths (packet : RouterPacket) : Prop where
  fits : peerLengthSize + packet.peerLength.toNat ≤ packet.payloadLength.toNat
  unwrapped : (packet.packetDataLength.toNat : Int) = (packet.payloadLength.toNat : Int) - packet.peerLength.toNat - peerLengthSize
  inside : headerLength ≤ packet.packetDataOffset ∧
    packet.packetDataOffset + packet.packetDataLength.toNat ≤ headerLength + packet.payloadLength.toNat

def AcceptsConsistent (packet : RouterPacket) : Prop :=
  ∀ headed decoded, packet.decodeHeader = (headed, true) → headed.decodePeer = (decoded, true) → ConsistentLengths decoded

-- The peer length is one of the last values that decode_peer lets through: it takes
-- in the four bytes of its own text.
def CountsOwnLength (packet : RouterPacket) : Prop :=
  packet.headerValue ≤ 1024 ∧ 0 ≤ packet.peerValue ∧ packet.peerValue ≤ packet.headerValue ∧
    packet.headerValue < packet.peerValue + peerLengthSize

theorem consistent_of_fits (packet : RouterPacket) (fits : 4 + packet.peerLength.toNat ≤ packet.payloadLength.toNat) :
    ConsistentLengths packet := by
  have peerBelow : packet.peerLength ≤ packet.payloadLength := by
    rw [UInt32.le_iff_toNat_le]
    omega
  have restBelow : 4 ≤ packet.payloadLength - packet.peerLength := by
    rw [UInt32.le_iff_toNat_le, UInt32.toNat_sub_of_le _ _ peerBelow]
    simp only [UInt32.reduceToNat]
    omega
  have length : packet.packetDataLength.toNat = packet.payloadLength.toNat - packet.peerLength.toNat - 4 := by
    rw [packetDataLength, UInt32.toNat_sub_of_le _ _ restBelow, UInt32.toNat_sub_of_le _ _ peerBelow]
    rfl
  refine ⟨fits, ?_, ?_, ?_⟩
  · simp only [peerLengthSize]
    omega
  · simp only [packetDataOffset, headerLength, peerLengthSize]
    omega
  · simp only [packetDataOffset, headerLength, peerLengthSize]
    omega

theorem accepted_lengths_consistent (packet : RouterPacket) : AcceptsConsistent packet ↔ ¬ CountsOwnLength packet := by
  constructor
  · rintro consistent ⟨high, low, below, short⟩
    have headed := decode_header_accepts packet (by omega) high
    obtain ⟨_, value, _⟩ := decode_header_bounds packet _ headed
    have decoded := decode_peer_accepts { packet with payloadLength := UInt32.ofInt packet.headerValue } (by omega) low
      (value.symm ▸ below)
    obtain ⟨_, peer, _⟩ := decode_peer_bounds _ _ (by omega) decoded
    have fits := (consistent _ _ headed decoded).fits
    change ((UInt32.ofInt packet.headerValue).toNat : Int) = packet.headerValue at value
    change ((UInt32.ofInt packet.peerValue).toNat : Int) = packet.peerValue at peer
    change 4 + (UInt32.ofInt packet.peerValue).toNat ≤ (UInt32.ofInt packet.headerValue).toNat at fits
    simp only [peerLengthSize] at short
    omega
  · intro apart headed decoded accepted acceptedPeer
    obtain ⟨high, value, payload⟩ := decode_header_bounds packet headed accepted
    obtain ⟨below, peer, length, _⟩ := decode_peer_bounds headed decoded (by omega) acceptedPeer
    have same : headed.peerValue = packet.peerValue := by rw [peerValue, payload, peerValue]
    apply consistent_of_fits
    rw [length]
    by_contra short
    exact apart ⟨high, by omega, by omega, by simp only [peerLengthSize]; omega⟩

-- The frame "  13  131.2.3.4:5": its peer length takes in the four bytes of the text.
def ownLengthFrame : RouterPacket :=
  ⟨0, 0, CharArray.zeroed.memcpy 0 [32, 32, 49, 51, 32, 32, 49, 51, 49, 46, 50, 46, 51, 46, 52, 58, 53]⟩

theorem own_length_frame_wraps :
    ∃ headed decoded, ownLengthFrame.decodeHeader = (headed, true) ∧ headed.decodePeer = (decoded, true) ∧
      decoded.packetDataLength = 4294967292 ∧ ¬ AcceptsConsistent ownLengthFrame := by
  obtain ⟨headed, decoded, accepted, acceptedPeer, wrapped⟩ : ∃ headed decoded, ownLengthFrame.decodeHeader = (headed, true) ∧
      headed.decodePeer = (decoded, true) ∧ decoded.packetDataLength = 4294967292 := ⟨_, _, rfl, rfl, rfl⟩
  refine ⟨headed, decoded, accepted, acceptedPeer, wrapped, fun consistent => ?_⟩
  have inside := (consistent headed decoded accepted acceptedPeer).inside.2
  have bounds := decode_header_bounds _ headed accepted
  have lengths := decode_peer_bounds headed decoded (by omega) acceptedPeer
  rw [wrapped, lengths.2.2.1] at inside
  simp only [UInt32.reduceToNat, headerLength] at inside
  omega

end RouterPacket

section Buffer

variable {Addr : Type}

def headerBuffer (header : Bytes) : RouterPacket := { RouterPacket.create with payload := CharArray.zeroed.memcpy 0 header }

-- What the receive buffer holds while a read is under way: nothing before the header,
-- and before the payload only what the header of the same frame has left there.
structure Receiving (session : RouterSession Addr) : Prop where
  unused : session.established = false → session.fromTcpPacket = .create
  header : SessionOp.readHeader ∈ session.pending → session.fromTcpPacket = .create
  payload : ∀ size, SessionOp.readPayload size ∈ session.pending → ∃ header,
    (headerBuffer header).decodeHeader = (session.fromTcpPacket, true) ∧ size = session.fromTcpPacket.payloadLength.toNat
  sizes : ∀ size, SessionOp.readPayload size ∈ session.started → size ≤ maxPayloadSize

theorem header_buffer_store (session : RouterSession Addr) (header : Bytes) (empty : session.fromTcpPacket = .create) :
    (session.storeRead 0 header).fromTcpPacket = headerBuffer header := by
  rw [RouterSession.storeRead, empty]
  rfl

theorem reads_mem (ops : List (SessionOp Addr)) (op : SessionOp Addr) (member : op ∈ ops) (reads : op.readSize.isSome = true) :
    0 < readsOf ops := List.countP_pos_iff.mpr ⟨op, member, reads⟩

theorem finished_mem (session : RouterSession Addr) (index : Nat) (op : SessionOp Addr)
    (member : op ∈ (session.finishOp index).pending) : op ∈ session.pending := List.mem_of_mem_eraseIdx member

theorem unread_buffer (session next : RouterSession Addr) (op : SessionOp Addr) (completion : Completion Addr)
    (packet : Option RouterPacket) (unread : op.readSize = none) (handled : session.handle op completion = some (next, packet)) :
    next.fromTcpPacket = session.fromTcpPacket := by
  cases RouterSession.handled_of_handle handled with
  | resolve result =>
      unfold RouterSession.handleResolve
      split <;> rfl
  | connect target iterator error =>
      unfold RouterSession.handleConnection RouterSession.deliverToTcpPeer
      split
      · dsimp only
        split
        · rfl
        · split <;> rfl
      · split <;> rfl
  | write sent error =>
      unfold RouterSession.handleDeliverTcp RouterSession.deliverToTcpPeer
      dsimp only
      split
      · split
        · split
          · rfl
          · split <;> rfl
        · rfl
      · rfl
  | readHeader _ _ _ => cases unread
  | readPayload _ _ _ _ => cases unread
  | close => rfl

theorem unread_no_payload (fresh : List (SessionOp Addr)) (unread : readsOf fresh = 0) (size : Nat) :
    SessionOp.readPayload size ∉ fresh := by
  intro member
  have some := reads_mem fresh (.readPayload size) member rfl
  omega

theorem connection_no_payload (session : RouterSession Addr) (error : Bool) (iterator : List (Endpoint Addr)) :
    ∃ fresh, Starts session (session.handleConnection error iterator) fresh ∧ ∀ size, SessionOp.readPayload size ∉ fresh := by
  unfold RouterSession.handleConnection
  split
  · obtain ⟨fresh, starts, unread, _⟩ := deliver_to_tcp_peer_starts { session with established := true }
    refine ⟨fresh ++ [.readHeader], ⟨starts.tuple, ?_, ?_⟩, fun size member => ?_⟩
    · simp [RouterSession.startReadFromTcp, starts.pending]
    · simp [RouterSession.startReadFromTcp, starts.started]
    · rcases List.mem_append.mp member with earlier | last
      · exact unread_no_payload fresh unread size earlier
      · simp at last
  · split
    · exact ⟨[.connect _ _], ⟨rfl, rfl, rfl⟩, by simp⟩
    · exact ⟨[.close], ⟨rfl, rfl, rfl⟩, by simp⟩

theorem starts_unique (session next : RouterSession Addr) (left right : List (SessionOp Addr))
    (leftStarts : Starts session next left) (rightStarts : Starts session next right) : left = right :=
  List.append_cancel_left (leftStarts.pending.symm.trans rightStarts.pending)

theorem unread_starts (session next : RouterSession Addr) (op : SessionOp Addr) (completion : Completion Addr)
    (packet : Option RouterPacket) (fresh : List (SessionOp Addr)) (unread : op.readSize = none)
    (effect : Effect op completion session next fresh) (handled : session.handle op completion = some (next, packet)) :
    ∀ size, SessionOp.readPayload size ∉ fresh := by
  cases RouterSession.handled_of_handle handled with
  | resolve result =>
      obtain ⟨resolved, starts, _, none⟩ := handle_resolve_starts session result
      rw [starts_unique _ _ fresh resolved effect.starts starts]
      exact unread_no_payload resolved none
  | connect target iterator error =>
      obtain ⟨connected, starts, none⟩ := connection_no_payload session error iterator
      rw [starts_unique _ _ fresh connected effect.starts starts]
      exact none
  | write _ _ => exact unread_no_payload fresh (effect.unread rfl rfl)
  | close => exact unread_no_payload fresh (effect.unread rfl rfl)
  | readHeader _ _ _ => cases unread
  | readPayload _ _ _ _ => cases unread

theorem header_buffer (session : RouterSession Addr) (error : Bool) (bytesLength : Nat) :
    (∃ fresh, Starts session (session.handleReadHeader error bytesLength) fresh ∧ readsOf fresh = 0) ∨
    (∃ headed, session.fromTcpPacket.decodeHeader = (headed, true) ∧
      session.handleReadHeader error bytesLength =
        { session with fromTcpPacket := headed }.startOp (.readPayload headed.payloadLength.toNat)) := by
  unfold RouterSession.handleReadHeader
  split
  · exact .inl ⟨[.close], ⟨rfl, rfl, rfl⟩, rfl⟩
  · split
    · cases decoded : session.fromTcpPacket.decodeHeader with
      | mk headed accepted =>
          cases accepted with
          | true => exact .inr ⟨headed, rfl, rfl⟩
          | false => exact .inl ⟨[.close], ⟨rfl, rfl, rfl⟩, rfl⟩
    · exact .inl ⟨[.close], ⟨rfl, rfl, rfl⟩, rfl⟩

theorem payload_buffer (session : RouterSession Addr) (error : Bool) (bytesLength : Nat) :
    (∃ fresh, Starts session (session.handleReadPayload error bytesLength).1 fresh ∧ readsOf fresh = 0 ∧
      (session.handleReadPayload error bytesLength).2 = none) ∨
    (∃ decoded, session.fromTcpPacket.decodePeer = (decoded, true) ∧
      session.handleReadPayload error bytesLength =
        ({ session with fromTcpPacket := .create }.startOp .readHeader, some decoded)) := by
  unfold RouterSession.handleReadPayload
  cases error with
  | true =>
      by_cases empty : bytesLength = 0
      · exact .inl ⟨[.close, .close], by simp [empty, RouterSession.closeSession]; exact ⟨rfl, by simp, by simp⟩, rfl, rfl⟩
      · exact .inl ⟨[.close], by simp [empty, RouterSession.closeSession]; exact ⟨rfl, rfl, rfl⟩, rfl, rfl⟩
  | false =>
      by_cases empty : bytesLength = 0
      · exact .inl ⟨[.close], by simp [empty, RouterSession.closeSession]; exact ⟨rfl, rfl, rfl⟩, rfl, by simp [empty]⟩
      · cases decoded : session.fromTcpPacket.decodePeer with
        | mk packet accepted =>
            simp only [if_neg empty, if_true, decoded]
            cases accepted with
            | true => exact .inr ⟨packet, rfl, rfl⟩
            | false => exact .inl ⟨[], ⟨rfl, by simp, by simp⟩, rfl, rfl⟩

theorem add_router_packet_buffer (session : RouterSession Addr) (raw : CharArray payloadCapacity) (packet : RouterPacket) :
    (session.addRouterPacket raw packet).fromTcpPacket = session.fromTcpPacket := by
  unfold RouterSession.addRouterPacket RouterSession.deliverToTcpPeer
  dsimp only
  split
  · split
    · rfl
    · split <;> rfl
  · rfl

theorem receiving_add (session : RouterSession Addr) (raw : CharArray payloadCapacity) (packet : RouterPacket)
    (receiving : Receiving session) : Receiving (session.addRouterPacket raw packet) := by
  obtain ⟨fresh, starts, unread, established, _⟩ := add_router_packet_starts session raw packet
  have buffer := add_router_packet_buffer session raw packet
  have kept : ∀ op ∈ session.pending ++ fresh, op.readSize.isSome = true → op ∈ session.pending := by
    intro op member reads
    rcases List.mem_append.mp member with old | new
    · exact old
    · have some := reads_mem fresh op new reads
      omega
  refine ⟨?_, ?_, ?_, ?_⟩
  · rw [established, buffer]
    exact receiving.unused
  · rw [starts.pending, buffer]
    intro member
    exact receiving.header (kept _ member rfl)
  · rw [starts.pending, buffer]
    intro size member
    exact receiving.payload size (kept _ member rfl)
  · rw [starts.started]
    intro size member
    rcases List.mem_append.mp member with old | new
    · exact receiving.sizes size old
    · exact absurd new (unread_no_payload fresh unread size)

theorem receiving_unread (session next : RouterSession Addr) (index : Nat) (op : SessionOp Addr) (completion : Completion Addr)
    (packet : Option RouterPacket) (unread : op.readSize = none) (receiving : Receiving session)
    (unconnected : op.isChain = true → session.established = false)
    (handled : (session.finishOp index).handle op completion = some (next, packet)) : Receiving next := by
  obtain ⟨fresh, effect⟩ := handle_effect _ next op completion packet handled
  have buffer : next.fromTcpPacket = session.fromTcpPacket :=
    unread_buffer (session.finishOp index) next op completion packet unread handled
  have noPayload := unread_starts _ next op completion packet fresh unread effect handled
  refine ⟨?_, ?_, ?_, ?_⟩
  · rw [buffer]
    intro unestablished
    apply receiving.unused
    cases chain : op.isChain with
    | true => exact unconnected chain
    | false => exact (effect.keeps chain).symm.trans unestablished
  · rw [effect.starts.pending, buffer]
    intro member
    rcases List.mem_append.mp member with old | new
    · exact receiving.header (finished_mem session index _ old)
    · apply receiving.unused
      apply unconnected
      by_contra other
      have none := effect.unread (by simpa using other) unread
      have some := reads_mem fresh _ new rfl
      omega
  · rw [effect.starts.pending, buffer]
    intro size member
    rcases List.mem_append.mp member with old | new
    · exact receiving.payload size (finished_mem session index _ old)
    · exact absurd new (noPayload size)
  · rw [effect.starts.started]
    intro size member
    rcases List.mem_append.mp member with old | new
    · exact receiving.sizes size old
    · exact absurd new (noPayload size)

theorem receiving_idle (session next : RouterSession Addr) (fresh : List (SessionOp Addr))
    (sizes : ∀ size, SessionOp.readPayload size ∈ session.started → size ≤ maxPayloadSize)
    (established : next.established = true) (idle : readsOf session.pending = 0) (unread : readsOf fresh = 0)
    (starts : Starts session next fresh) : Receiving next := by
  have none : readsOf next.pending = 0 := by rw [starts.pending, reads_of_append, idle, unread]
  refine ⟨?_, ?_, ?_, ?_⟩
  · simp [established]
  · intro member
    have some := reads_mem next.pending _ member rfl
    omega
  · intro size member
    exact absurd member (unread_no_payload next.pending none size)
  · rw [starts.started]
    intro size member
    rcases List.mem_append.mp member with old | new
    · exact sizes size old
    · exact absurd new (unread_no_payload fresh unread size)

theorem only_read (tuple : AdrTuple Addr) (run : SessionRun Addr)
    (reached : Machine.Reachable SessionRun.step (.create tuple) run) (index : Nat) (op : SessionOp Addr)
    (found : run.session.pending[index]? = some op) (reads : op.readSize.isSome = true) :
    run.session.established = true ∧ readsOf (run.session.finishOp index).pending = 0 := by
  have once := reachable_reads_once tuple run reached
  have finished := finished_reads run.session index op found
  have atMostOne := once.atMostOne
  rw [if_pos reads] at finished
  refine ⟨?_, by omega⟩
  by_contra unconnected
  have idle := once.connected (by simpa using unconnected)
  omega

theorem receiving_header (session next : RouterSession Addr) (index : Nat) (completion : Completion Addr)
    (packet : Option RouterPacket) (found : session.pending[index]? = some .readHeader) (established : session.established = true)
    (idle : readsOf (session.finishOp index).pending = 0) (receiving : Receiving session)
    (handled : (session.finishOp index).handle .readHeader completion = some (next, packet)) : Receiving next := by
  cases RouterSession.handled_of_handle handled with
  | readHeader error bytes fits =>
      have empty := receiving.header (List.mem_of_getElem? found)
      have stored := header_buffer_store (session.finishOp index) bytes empty
      rcases header_buffer ((session.finishOp index).storeRead 0 bytes) error bytes.length with
        ⟨fresh, starts, unread⟩ | ⟨headed, accepted, outcome⟩
      · obtain ⟨_, _, same, _⟩ := handle_read_header_starts ((session.finishOp index).storeRead 0 bytes) error bytes.length
        exact receiving_idle ((session.finishOp index).storeRead 0 bytes) _ fresh receiving.sizes (same.trans established) idle
          unread starts
      · rw [stored] at accepted
        obtain ⟨high, value, _⟩ := RouterPacket.decode_header_bounds _ headed accepted
        rw [outcome]
        refine ⟨fun unestablished => ?_, fun member => ?_, fun size member => ?_, fun size member => ?_⟩
        · exact absurd (unestablished.symm.trans established) (by simp)
        · rcases List.mem_append.mp member with old | new
          · have some := reads_mem _ _ old rfl
            exact absurd idle (Nat.ne_of_gt some)
          · simp at new
        · rcases List.mem_append.mp member with old | new
          · exact absurd old (unread_no_payload _ idle size)
          · have announced : size = headed.payloadLength.toNat := by simpa using new
            exact ⟨bytes, accepted, announced⟩
        · rcases List.mem_append.mp member with old | new
          · exact receiving.sizes size old
          · obtain rfl : size = headed.payloadLength.toNat := by simpa using new
            simp only [maxPayloadSize]
            omega

theorem receiving_payload (session next : RouterSession Addr) (index size : Nat) (completion : Completion Addr)
    (packet : Option RouterPacket) (established : session.established = true)
    (idle : readsOf (session.finishOp index).pending = 0) (receiving : Receiving session)
    (handled : (session.finishOp index).handle (.readPayload size) completion = some (next, packet)) : Receiving next := by
  cases RouterSession.handled_of_handle handled with
  | readPayload _ error bytes fits =>
      rcases payload_buffer ((session.finishOp index).storeRead headerLength bytes) error bytes.length with
        ⟨fresh, starts, unread, _⟩ | ⟨decoded, _, outcome⟩
      · obtain ⟨_, _, kept, _⟩ :=
          handle_read_payload_starts ((session.finishOp index).storeRead headerLength bytes) error bytes.length
        exact receiving_idle ((session.finishOp index).storeRead headerLength bytes) _ fresh receiving.sizes
          (kept.trans established) idle unread starts
      · rw [outcome]
        refine ⟨fun _ => rfl, fun _ => rfl, fun size member => ?_, fun size member => ?_⟩
        · rcases List.mem_append.mp member with old | new
          · exact absurd old (unread_no_payload _ idle size)
          · simp at new
        · rcases List.mem_append.mp member with old | new
          · exact receiving.sizes size old
          · simp at new

theorem receiving_step (tuple : AdrTuple Addr) (run next : SessionRun Addr) (event : SessionEvent Addr)
    (reached : Machine.Reachable SessionRun.step (.create tuple) run) (receiving : Receiving run.session)
    (stepped : run.step event = some next) : Receiving next.session := by
  cases event with
  | addRouterPacket raw packet =>
      cases stepped
      exact receiving_add run.session raw packet receiving
  | complete index completion =>
      obtain ⟨op, session, packet, found, handled, rfl⟩ := SessionRun.step_complete run next index completion stepped
      cases reads : op.readSize with
      | none =>
          exact receiving_unread run.session session index op completion packet reads receiving
            (chain_unconnected tuple run reached index op found) handled
      | some size =>
          obtain ⟨established, idle⟩ := only_read tuple run reached index op found (by simp [reads])
          cases op with
          | readHeader => exact receiving_header run.session session index completion packet found established idle receiving handled
          | readPayload size => exact receiving_payload run.session session index size completion packet established idle receiving handled
          | resolve | connect _ _ | write _ | close => cases reads

theorem reachable_receiving (tuple : AdrTuple Addr) (run : SessionRun Addr)
    (reached : Machine.Reachable SessionRun.step (.create tuple) run) : Receiving run.session := by
  refine (Machine.reachable_invariant
    (fun state => Machine.Reachable SessionRun.step (.create tuple) state ∧ Receiving state.session) ?_ (.create tuple) run
    ⟨Machine.reachable_start _, ⟨fun _ => rfl, fun _ => rfl, ?_, ?_⟩⟩ reached).2
  · rintro state event next ⟨stateReached, receiving⟩ stepped
    exact ⟨Machine.reachable_step _ _ _ _ stateReached stepped, receiving_step tuple state next event stateReached receiving stepped⟩
  · simp [SessionRun.create, RouterSession.create]
  · simp [SessionRun.create, RouterSession.create]

end Buffer

end Rart
