import RamsesProxy.UplinkLedger

set_option autoImplicit false

namespace Rart

open CText

-- The frame as routerSession.h describes it: the size of the payload in four characters,
-- the size of the peer text in four, the peer text, the datagram.
def wireFrame (peer data : Bytes) : Bytes :=
  printfD 4 (data.length + peer.length + 4 : Nat) ++ (printfD 4 peer.length ++ (peer ++ data))

def unframe (stream : Bytes) : Option ((Bytes × Bytes) × Bytes) :=
  let length := (atoi (stream.take 4)).toNat
  let peerLength := (atoi ((stream.drop 4).take 4)).toNat
  let payload := (stream.drop 4).take length
  if 8 ≤ stream.length ∧ peerLength + 4 ≤ length ∧ length + 4 ≤ stream.length then
    some (((payload.drop 4).take peerLength, payload.drop (4 + peerLength)), stream.drop (4 + length))
  else none

def unframeAll : Nat → Bytes → Option (List (Bytes × Bytes))
  | _, [] => some []
  | 0, _ :: _ => none
  | fuel + 1, first :: rest =>
      match unframe (first :: rest) with
      | none => none
      | some (frame, remaining) => (unframeAll fuel remaining).map (frame :: ·)

section Format

variable (peer data : Bytes)

theorem wire_frame_length (short : peer.length + data.length ≤ 1020) :
    (wireFrame peer data).length = 4 + (data.length + peer.length + 4) := by
  have lengthText := printf_d_length 4 (data.length + peer.length + 4) (by decide) (by omega)
  have peerText := printf_d_length 4 peer.length (by decide) (by omega)
  simp only [wireFrame, List.length_append, lengthText, peerText]
  omega

theorem unframe_wire_frame (rest : Bytes) (short : peer.length + data.length ≤ 1020) :
    unframe (wireFrame peer data ++ rest) = some ((peer, data), rest) := by
  have lengthText : (printfD 4 (data.length + peer.length + 4 : Nat)).length = 4 := printf_d_length 4 _ (by decide) (by omega)
  have peerText : (printfD 4 peer.length).length = 4 := printf_d_length 4 _ (by decide) (by omega)
  have lengthTaken : (wireFrame peer data ++ rest).take 4 = printfD 4 (data.length + peer.length + 4 : Nat) := by
    rw [wireFrame, List.append_assoc, List.take_left' lengthText]
  have payloadLeft : (wireFrame peer data ++ rest).drop 4 = printfD 4 peer.length ++ (peer ++ data) ++ rest := by
    rw [wireFrame, List.append_assoc, List.drop_left' lengthText]
  have peerTaken : ((wireFrame peer data ++ rest).drop 4).take 4 = printfD 4 peer.length := by
    rw [payloadLeft, List.append_assoc, List.take_left' peerText]
  have payloadLength : (printfD 4 peer.length ++ (peer ++ data)).length = data.length + peer.length + 4 := by
    simp only [List.length_append, peerText]
    omega
  have lengthValue := atoi_printf_d 4 (data.length + peer.length + 4) (by omega)
  have peerValue := atoi_printf_d 4 peer.length (by omega)
  have total : (wireFrame peer data ++ rest).length = 4 + (data.length + peer.length + 4) + rest.length := by
    rw [List.length_append, wire_frame_length peer data short]
  have remaining : (wireFrame peer data ++ rest).drop (4 + (data.length + peer.length + 4)) = rest := by
    rw [← List.drop_drop, payloadLeft, List.drop_left' payloadLength]
  have payload : ((wireFrame peer data ++ rest).drop 4).take (data.length + peer.length + 4) =
      printfD 4 peer.length ++ (peer ++ data) := by
    rw [payloadLeft, List.take_left' payloadLength]
  have body : (printfD 4 peer.length ++ (peer ++ data)).drop 4 = peer ++ data := List.drop_left' peerText
  simp only [unframe, lengthTaken, peerTaken, lengthValue, peerValue, Int.toNat_natCast, payload, remaining]
  rw [if_pos ⟨by omega, by omega, by omega⟩, ← List.drop_drop, body, List.take_left, List.drop_left]

theorem wire_frame_cons (short : peer.length + data.length ≤ 1020) : ∃ first others, wireFrame peer data = first :: others := by
  cases frame : wireFrame peer data with
  | nil =>
      have long := wire_frame_length peer data short
      simp [frame] at long
  | cons first others => exact ⟨first, others, rfl⟩

end Format

theorem unframe_all_frames (peer : Bytes) (datagrams : List Bytes) (fuel : Nat) (enough : datagrams.length ≤ fuel)
    (short : ∀ data ∈ datagrams, peer.length + data.length ≤ 1020) :
    unframeAll fuel (datagrams.flatMap (wireFrame peer)) = some (datagrams.map fun data => (peer, data)) := by
  induction datagrams generalizing fuel with
  | nil => cases fuel <;> rfl
  | cons data rest ih =>
      obtain ⟨first, others, starts⟩ := wire_frame_cons peer data (short data (by simp))
      have cut := unframe_wire_frame peer data (rest.flatMap (wireFrame peer)) (short data (by simp))
      cases fuel with
      | zero => simp at enough
      | succ fuel =>
          have later := ih fuel (by simpa using enough) (fun other member => short other (by simp [member]))
          rw [starts, List.cons_append] at cut
          simp only [List.flatMap_cons, starts, List.cons_append, unframeAll, cut, later, Option.map_some, List.map_cons]

theorem frames_long (peer : Bytes) (datagrams : List Bytes) (short : ∀ data ∈ datagrams, peer.length + data.length ≤ 1020) :
    datagrams.length ≤ (datagrams.flatMap (wireFrame peer)).length := by
  induction datagrams with
  | nil => simp
  | cons data rest ih =>
      have here := wire_frame_length peer data (short data (by simp))
      have later := ih fun other member => short other (by simp [member])
      simp only [List.flatMap_cons, List.length_append, List.length_cons]
      omega

section Packets

theorem data_of_contents (left right : RouterPacket) (same : left.contents = right.contents)
    (nonempty : 0 < right.payloadLength) (bounded : right.payloadLength ≤ 1024) : left.data = right.data := by
  have lengths : left.payloadLength = right.payloadLength := congrArg Prod.fst same
  have copies : left.copyLength = right.copyLength := by rw [RouterPacket.copyLength, RouterPacket.copyLength, lengths]
  have bytes : left.payload.slice 0 right.copyLength = right.payload.slice 0 right.copyLength := by
    have both := congrArg (fun contents => contents.2.2) same
    simpa only [RouterPacket.contents, lengths, copies, if_pos nonempty] using both
  have small : right.payloadLength.toNat ≤ 1024 := by simpa [UInt32.le_iff_toNat_le] using bounded
  have total : right.dataLength.toNat = 4 + right.payloadLength.toNat := by
    rw [RouterPacket.dataLength, UInt32.toNat_add]
    simp only [UInt32.reduceToNat]
    omega
  have sameTotal : left.dataLength = right.dataLength := by rw [RouterPacket.dataLength, RouterPacket.dataLength, lengths]
  rw [RouterPacket.data, RouterPacket.data, sameTotal]
  apply CharArray.slice_part _ _ _ _ _ bytes
  rw [total, RouterPacket.copy_length_exact right bounded]
  omega

variable {Addr : Type} [AsioAddress Addr]

theorem written_packet_frame (packet : RouterPacket) (tuple : AdrTuple Addr) (data : Bytes)
    (short : tuple.toText.length + data.length ≤ 1020) (same : packet.contents = (udpPacket tuple data).contents) :
    packet.data = wireFrame tuple.toText data := by
  obtain ⟨bounded, nonempty⟩ := holds_bounds _ _ data short (udp_packet_holds tuple data short)
  have copied := RouterPacket.copy_contents ⟨0, 0, CharArray.zeroed⟩ (udpPacket tuple data)
  rw [wireFrame, ← udp_packet_data tuple data CharArray.zeroed short]
  exact data_of_contents _ _ (same.trans copied.symm) nonempty bounded

theorem written_packets_frames (tuple : AdrTuple Addr) (packets : List RouterPacket) (datagrams : List Bytes)
    (short : ∀ data ∈ datagrams, tuple.toText.length + data.length ≤ 1020)
    (same : packets.map RouterPacket.contents = datagrams.map fun data => (udpPacket tuple data).contents) :
    packets.flatMap RouterPacket.data = datagrams.flatMap (wireFrame tuple.toText) := by
  induction packets generalizing datagrams with
  | nil =>
      cases datagrams with
      | nil => rfl
      | cons data rest => cases same
  | cons packet others ih =>
      cases datagrams with
      | nil => cases same
      | cons data rest =>
          simp only [List.map_cons, List.cons.injEq] at same
          rw [List.flatMap_cons, List.flatMap_cons, written_packet_frame packet tuple data (short data (by simp)) same.1,
            ih rest (fun other member => short other (by simp [member])) same.2]

end Packets

namespace Router

variable {Addr : Type} [AsioAddress Addr]

def wire (session : Nat) (events : List (RouterEvent Addr)) : Bytes := (writtenBy session events).flatMap RouterPacket.data

def ShortDatagram : RouterEvent Addr → Prop
  | .received _ peer data _ => peer.udpTuple.toText.length + data.length ≤ 1020
  | .completed _ _ _ _ | .sent _ _ => True

-- The server at the other end finds the first of the datagrams the session was given,
-- each with the text of the session's own peer, and nothing else.
structure WireCarries (session : Nat) (object : RouterSession Addr) (events : List (RouterEvent Addr)) : Prop where
  frames : wire session events =
    ((acceptedBy session events).take (writtenBy session events).length).flatMap (wireFrame object.udpTuple.toText)
  unframed : unframeAll (wire session events).length (wire session events) =
    some (((acceptedBy session events).take (writtenBy session events).length).map fun data => (object.udpTuple.toText, data))

theorem accepted_short (events : List (RouterEvent Addr)) (router : Router Addr) (ledger : UplinkLedger events router)
    (short : ∀ event ∈ events, ShortDatagram event) (session : Nat) (object : RouterSession Addr)
    (present : router.manager.sessions[session]? = some object) (data : Bytes) (member : data ∈ acceptedBy session events) :
    object.udpTuple.toText.length + data.length ≤ 1020 := by
  have own : session ∈ router.manager.sessionsOf object.udpTuple :=
    (SessionManager.mem_sessions_of router.manager object.udpTuple session).mpr ⟨object, present, rfl⟩
  have arrived : data ∈ arrivals object.udpTuple events := by
    rw [← ledger.routed object.udpTuple]
    exact List.mem_flatMap.mpr ⟨session, own, member⟩
  obtain ⟨event, eventMember, here⟩ := List.mem_flatMap.mp arrived
  have eventShort := short event eventMember
  cases event with
  | received error peer sent raw =>
      simp only [arrival] at here
      split at here
      · rename_i dispatched
        obtain rfl := List.mem_singleton.mp here
        rw [← dispatched.2]
        exact eventShort
      · cases here
  | completed _ _ _ _ => cases here
  | sent _ _ => cases here

theorem connection_carries_frames (events : List (RouterEvent Addr)) (router : Router Addr)
    (ran : Machine.run step create events = some router) (short : ∀ event ∈ events, ShortDatagram event)
    (session : Nat) (object : RouterSession Addr) (present : router.manager.sessions[session]? = some object) :
    WireCarries session object events := by
  have ledger := uplink_ledger_run events router ran
  have shortHere : ∀ data ∈ (acceptedBy session events).take (writtenBy session events).length,
      object.udpTuple.toText.length + data.length ≤ 1020 := fun data member =>
    accepted_short events router ledger short session object present data (List.mem_of_mem_take member)
  have written : (writtenBy session events).map RouterPacket.contents =
      ((acceptedBy session events).take (writtenBy session events).length).map fun data =>
        (udpPacket object.udpTuple data).contents := by
    have both := congrArg (List.take (writtenBy session events).length) (ledger.kept session object present)
    rwa [List.map_append, List.take_left' (List.length_map _), ← List.map_take] at both
  have frames : wire session events = _ := written_packets_frames object.udpTuple _ _ shortHere written
  refine ⟨frames, ?_⟩
  rw [frames]
  exact unframe_all_frames object.udpTuple.toText _ _ (frames_long _ _ shortHere) shortHere

theorem connection_carries_frames_reconnecting :
    ∃ (router : Router Ipv4) (object : RouterSession Ipv4), Machine.run step create reconnectingPeer = some router ∧
      router.manager.sessions[0]? = some object ∧ acceptedBy 0 reconnectingPeer = [[1], [3]] ∧
      WireCarries 0 object reconnectingPeer := by
  obtain ⟨router, object, ran, present⟩ : ∃ (router : Router Ipv4) (object : RouterSession Ipv4),
      Machine.run step create reconnectingPeer = some router ∧ router.manager.sessions[0]? = some object := ⟨_, _, rfl, rfl⟩
  have short : ∀ event ∈ reconnectingPeer, ShortDatagram event := by
    intro event member
    simp only [reconnectingPeer, List.mem_cons, List.not_mem_nil, or_false] at member
    rcases member with rfl | rfl | rfl | rfl | rfl | rfl | rfl | rfl <;> first | trivial | (simp only [ShortDatagram]; decide)
  exact ⟨router, object, ran, present, by decide, connection_carries_frames reconnectingPeer router ran short 0 object present⟩

end Router

end Rart
