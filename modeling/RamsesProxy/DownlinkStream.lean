import RamsesProxy.Lib.FrameStream
import RamsesProxy.ReceiveFrames
import RamsesProxy.RouterReads

set_option autoImplicit false

namespace Rart

-- What the F1 server may send on a connection, as the two decoders take it.
def replyFormat : FrameStream UInt8 RouterPacket RouterPacket where
  headSize := headerLength
  positive := by decide
  head header :=
    match (headerBuffer header).decodeHeader with
    | (headed, true) => some (headed, headed.payloadLength.toNat)
    | (_, false) => none
  frame := frameReply

theorem header_alone (header : Bytes) (length : header.length = headerLength) : replyFormat.parse header = [] := by
  apply FrameStream.parse_none
  cases accepted : replyFormat.head header with
  | none => exact replyFormat.next_refused header length accepted
  | some entry =>
      obtain ⟨head, size⟩ := entry
      by_cases waiting : 0 < size
      · exact replyFormat.next_waiting header length head size accepted waiting
      · obtain rfl : size = 0 := by omega
        have ended := replyFormat.next_headed header length head 0 accepted [] [] rfl
        rw [List.append_nil, List.append_nil] at ended
        rw [ended]
        simp [replyFormat, frameReply]

section Parsed

variable {Addr : Type}

def Completion.stored : Completion Addr → Bytes
  | .read false bytes => bytes
  | .read true _ | .resolved _ | .connected _ | .written _ | .posted => []

-- The reads of a session are a parser of its stream that stands between two frames
-- before a header, and behind the header before a payload.
structure Parsed (stream : Bytes) (replies : List RouterPacket) (session : RouterSession Addr) : Prop where
  whole : replyFormat.parse stream = replies
  unused : session.established = false → stream = [] ∧ replies = []
  header : SessionOp.readHeader ∈ session.pending → replyFormat.Consumed stream replies
  payload : ∀ size, SessionOp.readPayload size ∈ session.pending → ∃ front header, stream = front ++ header ∧
    header.length = headerLength ∧ replyFormat.Consumed front replies ∧
    (headerBuffer header).decodeHeader = (session.fromTcpPacket, true) ∧ size = session.fromTcpPacket.payloadLength.toNat

variable (stream : Bytes) (replies : List RouterPacket) (session next : RouterSession Addr)

theorem parsed_create (tuple : AdrTuple Addr) : Parsed [] [] (RouterSession.create tuple) where
  whole := replyFormat.parse_nil
  unused _ := ⟨rfl, rfl⟩
  header _ := replyFormat.consumed_nil
  payload size member := by simp [RouterSession.create] at member

theorem parsed_add (raw : CharArray payloadCapacity) (packet : RouterPacket) (parsed : Parsed stream replies session) :
    Parsed stream replies (session.addRouterPacket raw packet) := by
  obtain ⟨fresh, starts, unread, established, _⟩ := add_router_packet_starts session raw packet
  have kept : ∀ op ∈ session.pending ++ fresh, op.readSize.isSome = true → op ∈ session.pending := by
    intro op member reads
    cases List.mem_append.mp member with
    | inl old => exact old
    | inr new => exact absurd unread (Nat.ne_of_gt (reads_mem fresh op new reads))
  refine ⟨parsed.whole, ?_, ?_, ?_⟩
  · rw [established]
    exact parsed.unused
  · rw [starts.pending]
    intro member
    exact parsed.header (kept _ member rfl)
  · rw [starts.pending, add_router_packet_buffer]
    intro size member
    exact parsed.payload size (kept _ member rfl)

theorem parsed_idle (whole : replyFormat.parse stream = replies) (established : next.established = true)
    (idle : readsOf next.pending = 0) : Parsed stream replies next where
  whole := whole
  unused unestablished := absurd (unestablished.symm.trans established) (by simp)
  header member := absurd idle (Nat.ne_of_gt (reads_mem next.pending _ member rfl))
  payload size member := absurd member (unread_no_payload next.pending idle size)

theorem parsed_unread (index : Nat) (op : SessionOp Addr) (completion : Completion Addr) (packet : Option RouterPacket)
    (unread : op.readSize = none) (unconnected : op.isChain = true → session.established = false)
    (handled : (session.finishOp index).handle op completion = some (next, packet)) (parsed : Parsed stream replies session) :
    Parsed (stream ++ completion.stored) (replies ++ packet.toList) next := by
  have silent : completion.stored = [] ∧ packet = none := by
    cases RouterSession.handled_of_handle handled with
    | resolve _ | connect _ _ _ | write _ _ | close => exact ⟨rfl, rfl⟩
    | readHeader _ _ _ | readPayload _ _ _ _ => cases unread
  obtain ⟨fresh, effect⟩ := handle_effect _ next op completion packet handled
  have buffer : next.fromTcpPacket = session.fromTcpPacket :=
    unread_buffer (session.finishOp index) next op completion packet unread handled
  have noPayload := unread_starts _ next op completion packet fresh unread effect handled
  rw [silent.1, silent.2, Option.toList_none, List.append_nil, List.append_nil]
  refine ⟨parsed.whole, ?_, ?_, ?_⟩
  · intro unestablished
    apply parsed.unused
    cases chain : op.isChain with
    | true => exact unconnected chain
    | false => exact (effect.keeps chain).symm.trans unestablished
  · rw [effect.starts.pending]
    intro member
    cases List.mem_append.mp member with
    | inl old => exact parsed.header (finished_mem session index _ old)
    | inr new =>
        have chain : op.isChain = true := by
          by_contra other
          have none := effect.unread (by simpa using other) unread
          exact absurd none (Nat.ne_of_gt (reads_mem fresh _ new rfl))
        obtain ⟨rfl, rfl⟩ := parsed.unused (unconnected chain)
        exact replyFormat.consumed_nil
  · rw [effect.starts.pending, buffer]
    intro size member
    cases List.mem_append.mp member with
    | inl old => exact parsed.payload size (finished_mem session index _ old)
    | inr new => exact absurd new (noPayload size)

theorem parsed_header (index : Nat) (completion : Completion Addr) (packet : Option RouterPacket)
    (found : session.pending[index]? = some .readHeader) (established : session.established = true)
    (idle : readsOf (session.finishOp index).pending = 0) (receiving : Receiving session)
    (handled : (session.finishOp index).handle .readHeader completion = some (next, packet))
    (parsed : Parsed stream replies session) : Parsed (stream ++ completion.stored) (replies ++ packet.toList) next := by
  cases RouterSession.handled_of_handle handled with
  | readHeader error bytes fits =>
      have consumed := parsed.header (List.mem_of_getElem? found)
      have empty := receiving.header (List.mem_of_getElem? found)
      have stored := header_buffer_store (session.finishOp index) bytes empty
      rw [Option.toList_none, List.append_nil]
      cases error with
      | true =>
          have closed : ((session.finishOp index).storeRead 0 bytes).handleReadHeader true bytes.length =
              ((session.finishOp index).storeRead 0 bytes).closeSession := by
            simp [RouterSession.handleReadHeader]
          rw [closed]
          simp only [Completion.stored, List.append_nil]
          exact parsed_idle stream replies _ parsed.whole established
            (by simpa [RouterSession.closeSession, RouterSession.storeRead, SessionOp.readSize] using idle)
      | false =>
          have length : bytes.length = headerLength := RouterSession.read_fits_whole headerLength bytes fits
          cases decoded : (headerBuffer bytes).decodeHeader with
          | mk headed accepted =>
              simp only [RouterSession.handleReadHeader, length, OfNat.ofNat_ne_zero, if_false, if_true, stored, decoded,
                Completion.stored]
              cases accepted with
              | false =>
                  have refused : replyFormat.head bytes = none := by simp only [replyFormat, decoded]
                  have ended := replyFormat.next_refused bytes length refused
                  refine parsed_idle _ replies _ ?_ established ?_
                  · rw [consumed, replyFormat.parse_none _ ended, List.append_nil]
                  · simpa [RouterSession.closeSession, RouterSession.storeRead, SessionOp.readSize] using idle
              | true =>
                  refine ⟨?_, ?_, ?_, ?_⟩
                  · rw [consumed, header_alone bytes length, List.append_nil]
                  · exact fun unestablished => absurd (unestablished.symm.trans established) (by simp)
                  · intro member
                    cases List.mem_append.mp member with
                    | inl old => exact absurd idle (Nat.ne_of_gt (reads_mem _ _ old rfl))
                    | inr new => simp at new
                  · intro size member
                    cases List.mem_append.mp member with
                    | inl old => exact absurd old (unread_no_payload _ idle size)
                    | inr new =>
                        have announced : size = headed.payloadLength.toNat := by simpa using new
                        exact ⟨stream, bytes, rfl, length, consumed, decoded, announced⟩

theorem parsed_payload (index size : Nat) (completion : Completion Addr) (packet : Option RouterPacket)
    (found : session.pending[index]? = some (.readPayload size)) (established : session.established = true)
    (idle : readsOf (session.finishOp index).pending = 0)
    (handled : (session.finishOp index).handle (.readPayload size) completion = some (next, packet))
    (parsed : Parsed stream replies session) : Parsed (stream ++ completion.stored) (replies ++ packet.toList) next := by
  obtain ⟨front, header, rfl, length, consumed, decoded, announced⟩ := parsed.payload size (List.mem_of_getElem? found)
  have completed : session.complete index completion = some (next, packet) := by
    simp only [RouterSession.complete, found, handled]
  cases RouterSession.handled_of_handle handled with
  | readPayload _ error bytes fits =>
      obtain ⟨_, _, kept, _⟩ :=
        handle_read_payload_starts ((session.finishOp index).storeRead headerLength bytes) error bytes.length
      have stillEstablished := kept.trans established
      cases error with
      | true =>
          cases payload_buffer ((session.finishOp index).storeRead headerLength bytes) true bytes.length with
          | inl ended =>
              obtain ⟨fresh, starts, unread, none⟩ := ended
              rw [none, Option.toList_none, List.append_nil]
              refine parsed_idle _ replies _ ?_ stillEstablished ?_
              · simpa [Completion.stored] using parsed.whole
              · rw [starts.pending, reads_of_append, unread, Nat.add_zero]
                exact idle
          | inr goesOn =>
              obtain ⟨packet, _, outcome⟩ := goesOn
              have none : (((session.finishOp index).storeRead headerLength bytes).handleReadPayload true bytes.length).2 = none := by
                simp [RouterSession.handleReadPayload]
              rw [outcome] at none
              cases none
      | false =>
          obtain ⟨reply, size⟩ := payload_read_reply session _ index size bytes _ found completed
          have head : replyFormat.head header = some (session.fromTcpPacket, bytes.length) := by
            simp only [replyFormat, decoded, size, announced]
          simp only [Completion.stored]
          cases payload_buffer ((session.finishOp index).storeRead headerLength bytes) false bytes.length with
          | inl ended =>
              obtain ⟨fresh, starts, unread, none⟩ := ended
              rw [none] at reply ⊢
              rw [Option.toList_none, List.append_nil]
              refine parsed_idle _ replies _ ?_ stillEstablished ?_
              · exact replyFormat.parse_stuck front header bytes replies session.fromTcpPacket consumed length head reply.symm
              · rw [starts.pending, reads_of_append, unread, Nat.add_zero]
                exact idle
          | inr goesOn =>
              obtain ⟨packet, _, outcome⟩ := goesOn
              rw [outcome] at reply stillEstablished ⊢
              have more := replyFormat.consumed_frame front header bytes replies session.fromTcpPacket packet consumed length head
                reply.symm
              refine ⟨replyFormat.consumed_parse _ _ more, ?_, fun _ => more, ?_⟩
              · exact fun unestablished => absurd (unestablished.symm.trans stillEstablished) (by simp)
              · intro other member
                cases List.mem_append.mp member with
                | inl old => exact absurd old (unread_no_payload _ idle other)
                | inr new => simp at new

theorem parsed_handled (index : Nat) (op : SessionOp Addr) (completion : Completion Addr) (packet : Option RouterPacket)
    (own : OwnRun session) (found : session.pending[index]? = some op)
    (handled : (session.finishOp index).handle op completion = some (next, packet)) (parsed : Parsed stream replies session) :
    Parsed (stream ++ completion.stored) (replies ++ packet.toList) next := by
  obtain ⟨run, reached, rfl⟩ := own
  cases reads : op.readSize with
  | none =>
      exact parsed_unread stream replies run.session next index op completion packet reads
        (chain_unconnected _ run reached index op found) handled parsed
  | some size =>
      obtain ⟨established, idle⟩ := only_read _ run reached index op found (by simp [reads])
      cases op with
      | readHeader =>
          exact parsed_header stream replies run.session next index completion packet found established idle
            (reachable_receiving _ run reached) handled parsed
      | readPayload size =>
          exact parsed_payload stream replies run.session next index size completion packet found established idle handled parsed
      | resolve | connect _ _ | write _ | close => cases reads

end Parsed

namespace UdpRelay

variable {Addr : Type} [AsioAddress Addr] (relay next : UdpRelay Addr)

theorem deliver_received (delivered : relay.deliverFront = .ok next) : next.received = relay.received := by
  rcases deliver_cases relay next delivered with ⟨_, rfl⟩ | ⟨_, _, _, _, rfl⟩ | ⟨_, _, _, _, _, rfl⟩
  · rfl
  · rfl
  · rfl

theorem frame_received (raw : CharArray payloadCapacity) (packet : RouterPacket)
    (stepped : relay.step (.frame raw packet) = some next) : next.received = relay.received ++ [relay.newReply raw packet] := by
  cases frame_cases relay next raw packet stepped with
  | inl idle => exact deliver_received _ next idle.2
  | inr busy =>
      obtain ⟨_, middle, first, second⟩ := busy
      exact (deliver_received middle next second).trans (deliver_received _ middle first)

theorem sent_received (index : Nat) (error : Bool) (stepped : relay.step (.sent index error) = some next) :
    next.received = relay.received := by
  obtain ⟨_, _, outcome⟩ := sent_cases relay next index error stepped
  rcases outcome with ⟨_, rfl⟩ | ⟨_, _, rfl⟩ | ⟨_, _, delivered⟩
  · rfl
  · rfl
  · have same := deliver_received _ next delivered
    exact same

theorem hand_over_received (raw : CharArray payloadCapacity) (packet : Option RouterPacket)
    (handed : (relay.handOver raw packet).toOption = some next) :
    next.received.map (fun reply => reply.packet.contents) =
      relay.received.map (fun reply => reply.packet.contents) ++ packet.toList.map RouterPacket.contents := by
  cases packet with
  | none =>
      obtain rfl := Except.ok.inj (to_option_some _ _ handed)
      simp
  | some frame =>
      rw [frame_received relay next raw frame handed]
      simp [newReply, RouterPacket.copyConstruct, RouterPacket.copy_contents]

end UdpRelay

namespace Router

variable {Addr : Type} [AsioAddress Addr]

def handsOver (router : Router Addr) (event : RouterEvent Addr) (_next : Router Addr) : List (Nat × RouterPacket) :=
  match event with
  | .completed session index completion _ =>
      ((router.manager.complete session index completion).bind Prod.snd).toList.map fun packet => (session, packet)
  | .received _ _ _ _ | .sent _ _ => []

def reads (session : Nat) (_router : Router Addr) (event : RouterEvent Addr) (_next : Router Addr) : Bytes :=
  match event with
  | .completed other _ completion _ => if other = session then completion.stored else []
  | .received _ _ _ _ | .sent _ _ => []

def handedOver (events : List (RouterEvent Addr)) : List (Nat × RouterPacket) := Machine.outputs step handsOver create events

def streamOf (session : Nat) (events : List (RouterEvent Addr)) : Bytes := Machine.outputs step (reads session) create events

def repliesOf (session : Nat) (entries : List (Nat × RouterPacket)) : List RouterPacket :=
  (entries.filter fun entry => entry.1 = session).map Prod.snd

structure DownlinkLedger (events : List (RouterEvent Addr)) (router : Router Addr) : Prop where
  received : router.relay.received.map (fun reply => reply.packet.contents) =
    (handedOver events).map fun entry => entry.2.contents
  parsed : ∀ (session : Nat) object, router.manager.sessions[session]? = some object →
    Parsed (streamOf session events) (repliesOf session (handedOver events)) object
  unborn : ∀ session, router.manager.sessions.length ≤ session →
    streamOf session events = [] ∧ repliesOf session (handedOver events) = []

theorem downlink_ledger_create : DownlinkLedger [] (create : Router Addr) := by
  refine ⟨rfl, fun session object present => ?_, fun session _ => ⟨rfl, rfl⟩⟩
  simp [create, SessionManager.create] at present

section Step

variable (events : List (RouterEvent Addr)) (router next : Router Addr) (event : RouterEvent Addr)
  (ran : Machine.run step create events = some router) (stepped : router.step event = some next)
include ran stepped

theorem stream_snoc (session : Nat) : streamOf session (events ++ [event]) = streamOf session events ++ reads session router event next :=
  Machine.outputs_snoc (reads session) create router next events event ran stepped

theorem handed_over_snoc : handedOver (events ++ [event]) = handedOver events ++ handsOver router event next :=
  Machine.outputs_snoc handsOver create router next events event ran stepped

theorem replies_snoc (session : Nat) :
    repliesOf session (handedOver (events ++ [event])) =
      repliesOf session (handedOver events) ++ repliesOf session (handsOver router event next) := by
  simp only [repliesOf, handed_over_snoc events router next event ran stepped, List.filter_append, List.map_append]

theorem downlink_ledger_silent (ledger : DownlinkLedger events router) (silent : handsOver router event next = [])
    (unread : ∀ session, reads session router event next = [])
    (received : next.relay.received = router.relay.received) (grown : router.manager.sessions.length ≤ next.manager.sessions.length)
    (kept : ∀ (session : Nat) after, next.manager.sessions[session]? = some after →
      Parsed (streamOf session events) (repliesOf session (handedOver events)) after) :
    DownlinkLedger (events ++ [event]) next := by
  have streams : ∀ session, streamOf session (events ++ [event]) = streamOf session events := by
    intro session
    rw [stream_snoc events router next event ran stepped, unread, List.append_nil]
  have entries : handedOver (events ++ [event]) = handedOver events := by
    rw [handed_over_snoc events router next event ran stepped, silent, List.append_nil]
  constructor
  · rw [received, entries]
    exact ledger.received
  · intro session after present
    rw [streams, entries]
    exact kept session after present
  · intro session beyond
    rw [streams, entries]
    exact ledger.unborn session (Nat.le_trans grown beyond)

end Step

theorem downlink_ledger_received (events : List (RouterEvent Addr)) (router next : Router Addr) (error : Bool) (peer : Endpoint Addr)
    (data : Bytes) (raw : CharArray payloadCapacity) (ran : Machine.run step create events = some router)
    (stepped : router.step (.received error peer data raw) = some next) (coherent : router.manager.Coherent)
    (ledger : DownlinkLedger events router) : DownlinkLedger (events ++ [.received error peer data raw]) next := by
  have taken := stepped
  simp only [step, Option.ite_none_right_eq_some, Option.some.injEq] at taken
  obtain ⟨_, rfl⟩ := taken
  by_cases dispatched : error = false ∨ data.length > 0
  · cases SessionManager.deliver_cases router.manager raw peer.udpTuple data coherent.own with
    | inl reused =>
        obtain ⟨session, object, mapped, present, owned, delivered⟩ := reused
        have manager : router.manager.handleReceive error peer data raw = _ := (if_pos dispatched).trans delivered
        apply downlink_ledger_silent events router _ _ ran stepped ledger rfl (fun _ => rfl) rfl
        · simp [manager]
        · intro other after otherPresent
          simp only [manager] at otherPresent
          cases Sequences.set_cases _ _ _ _ _ _ present otherPresent with
          | inl here =>
              obtain ⟨rfl, rfl⟩ := here
              exact parsed_add _ _ object raw _ (ledger.parsed other object present)
          | inr apart => exact ledger.parsed other after apart.2
    | inr created =>
        have manager : router.manager.handleReceive error peer data raw = _ := (if_pos dispatched).trans created.2
        apply downlink_ledger_silent events router _ _ ran stepped ledger rfl (fun _ => rfl) rfl
        · simp [manager]
        · intro other after otherPresent
          simp only [manager] at otherPresent
          cases Sequences.snoc_cases _ _ _ _ otherPresent with
          | inl old => exact ledger.parsed other after old
          | inr last =>
              obtain ⟨rfl, rfl⟩ := last
              obtain ⟨unread, unreplied⟩ := ledger.unborn router.manager.sessions.length (Nat.le_refl _)
              rw [unread, unreplied]
              exact parsed_add [] [] _ raw _ (parsed_create peer.udpTuple)
  · have manager : router.manager.handleReceive error peer data raw = _ := if_neg dispatched
    apply downlink_ledger_silent events router _ _ ran stepped ledger rfl (fun _ => rfl) rfl
    · simp [manager]
    · intro other after otherPresent
      simp only [manager, SessionManager.remove_session_sessions] at otherPresent
      exact ledger.parsed other after otherPresent

theorem completed_relay (router next : Router Addr) (session index : Nat) (completion : Completion Addr)
    (raw : CharArray payloadCapacity) (stepped : router.step (.completed session index completion raw) = some next) :
    ∃ packet, router.manager.complete session index completion = some (next.manager, packet) ∧
      (router.relay.handOver raw packet).toOption = some next.relay := by
  simp only [step] at stepped
  split at stepped
  · cases stepped
  · rename_i manager packet completed
    obtain ⟨relay, handed, rfl⟩ := Option.map_eq_some_iff.mp stepped
    exact ⟨packet, completed, handed⟩

theorem downlink_ledger_completed (events : List (RouterEvent Addr)) (router next : Router Addr) (session index : Nat)
    (completion : Completion Addr) (raw : CharArray payloadCapacity) (ran : Machine.run step create events = some router)
    (stepped : router.step (.completed session index completion raw) = some next) (coherent : router.manager.Coherent)
    (ledger : DownlinkLedger events router) : DownlinkLedger (events ++ [.completed session index completion raw]) next := by
  obtain ⟨packet, completed, handed⟩ := completed_relay router next session index completion raw stepped
  obtain ⟨object, op, after, present, found, handled, _, outcome⟩ :=
    SessionManager.complete_cases router.manager next.manager session index completion packet completed
  have bound := (List.getElem?_eq_some_iff.mp present).1
  have sessions :=
    SessionManager.completed_sessions router.manager next.manager session op object after present outcome
  have hands : handsOver router (.completed session index completion raw) next = packet.toList.map fun frame => (session, frame) := by
    simp only [handsOver, completed, Option.bind_some]
  have replies : ∀ other, repliesOf other (packet.toList.map fun frame => (session, frame)) =
      if session = other then packet.toList else [] := by
    intro other
    cases packet with
    | none => simp [repliesOf]
    | some frame =>
        by_cases here : session = other
        · simp [repliesOf, here]
        · simp [repliesOf, here]
  constructor
  · rw [handed_over_snoc events router next _ ran stepped, hands, List.map_append, List.map_map, ← ledger.received]
    exact UdpRelay.hand_over_received router.relay next.relay raw packet handed
  · intro other otherAfter otherPresent
    rw [stream_snoc events router next _ ran stepped, replies_snoc events router next _ ran stepped, hands, replies, reads]
    rw [sessions] at otherPresent
    cases Sequences.set_cases _ _ _ _ _ _ present otherPresent with
    | inl here =>
        obtain ⟨rfl, rfl⟩ := here
        rw [if_pos rfl, if_pos rfl]
        exact parsed_handled _ _ object otherAfter index op completion packet (coherent.runs other object present) found handled
          (ledger.parsed other object present)
    | inr apart =>
        rw [if_neg (Ne.symm apart.1), if_neg (Ne.symm apart.1), List.append_nil, List.append_nil]
        exact ledger.parsed other otherAfter apart.2
  · intro other beyond
    rw [sessions, List.length_set] at beyond
    have apart : session ≠ other := by omega
    rw [stream_snoc events router next _ ran stepped, replies_snoc events router next _ ran stepped, hands, replies, reads,
      if_neg apart, if_neg apart, List.append_nil, List.append_nil]
    exact ledger.unborn other beyond

theorem downlink_ledger_step (events : List (RouterEvent Addr)) (router next : Router Addr) (event : RouterEvent Addr)
    (ran : Machine.run step create events = some router) (stepped : router.step event = some next)
    (coherent : router.manager.Coherent) (ledger : DownlinkLedger events router) : DownlinkLedger (events ++ [event]) next := by
  cases event with
  | received error peer data raw => exact downlink_ledger_received events router next error peer data raw ran stepped coherent ledger
  | completed session index completion raw =>
      exact downlink_ledger_completed events router next session index completion raw ran stepped coherent ledger
  | sent index error =>
      have sent := stepped
      simp only [step] at sent
      obtain ⟨relay, relayed, rfl⟩ := Option.map_eq_some_iff.mp sent
      exact downlink_ledger_silent events router _ _ ran stepped ledger rfl (fun _ => rfl)
        (UdpRelay.sent_received router.relay relay index error relayed) (Nat.le_refl _) ledger.parsed

theorem downlink_ledger_run (events : List (RouterEvent Addr)) (router : Router Addr)
    (ran : Machine.run step create events = some router) : DownlinkLedger events router := by
  have both := Machine.run_history (fun events router => router.manager.Coherent ∧ DownlinkLedger events router) create
    ⟨SessionManager.coherent_create, downlink_ledger_create⟩
    (fun before state event next ranBefore both stepped => ⟨coherent_step state next event both.1 stepped,
      downlink_ledger_step before state next event ranBefore stepped both.1 both.2⟩) events router ran
  exact both.2

-- Whatever the order of the handlers, the replies queued for the UDP side are those of
-- the sessions in the order they were read, and those of one session are the frames of
-- the bytes read from its connection.
theorem downlink_conserved (events : List (RouterEvent Addr)) (router : Router Addr)
    (ran : Machine.run step create events = some router) :
    router.relay.received.map (fun reply => reply.packet.contents) = (handedOver events).map (fun entry => entry.2.contents) ∧
      ∀ session, repliesOf session (handedOver events) = replyFormat.parse (streamOf session events) := by
  have ledger := downlink_ledger_run events router ran
  refine ⟨ledger.received, fun session => ?_⟩
  by_cases born : session < router.manager.sessions.length
  · have present : router.manager.sessions[session]? = some router.manager.sessions[session] := by simp [born]
    exact (ledger.parsed session _ present).whole.symm
  · obtain ⟨unread, unreplied⟩ := ledger.unborn session (Nat.le_of_not_lt born)
    rw [unread, unreplied, replyFormat.parse_nil]

theorem downlink_conserved_replied :
    ∃ router : Router Ipv4, Machine.run step create repliedFrame = some router ∧ router.relay.received.length = 1 ∧
      streamOf 0 repliedFrame = sampleFrame.data ∧
      router.relay.received.map (fun reply => reply.packet.contents) =
        (handedOver repliedFrame).map (fun entry => entry.2.contents) ∧
      repliesOf 0 (handedOver repliedFrame) = replyFormat.parse sampleFrame.data := by
  obtain ⟨router, ran, received⟩ : ∃ router : Router Ipv4, Machine.run step create repliedFrame = some router ∧
      router.relay.received.length = 1 := ⟨_, rfl, rfl⟩
  have stream : streamOf 0 repliedFrame = sampleFrame.data := by rfl
  obtain ⟨same, parsed⟩ := downlink_conserved repliedFrame router ran
  exact ⟨router, ran, received, stream, same, stream ▸ parsed 0⟩

end Router

end Rart
