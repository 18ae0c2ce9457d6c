import RamsesProxy.RouterReads
import RamsesProxy.UplinkLedger
import RamsesProxy.SessionLifetime

set_option autoImplicit false

namespace Rart

section Stalled

variable {Addr : Type}

-- Packets wait, and nothing is under way that would ever write them.
structure Stalled (session : RouterSession Addr) : Prop where
  waiting : session.udpPacketQueue ≠ []
  unchained : chainOf session.pending = []
  unwritten : writesOf session.pending = []

def SessionOp.fails : SessionOp Addr → Completion Addr → Bool
  | .resolve, .resolved (.failed _) => true
  | .connect _ _, .connected true => true
  | .write _, .written true => true
  | _, _ => false

theorem stalled_start_op (session : RouterSession Addr) (op : SessionOp Addr) (stalled : Stalled (session.startOp op)) :
    op.isChain = false ∧ op.writePacket = none := by
  have unchained := stalled.unchained
  have unwritten := stalled.unwritten
  rw [RouterSession.start_op_pending] at unchained unwritten
  refine ⟨?_, ?_⟩
  · by_contra chained
    simp [chained] at unchained
  · cases written : op.writePacket with
    | none => rfl
    | some packet => simp [written] at unwritten

theorem deliver_not_stalled (session : RouterSession Addr) : ¬ Stalled session.deliverToTcpPeer := by
  intro stalled
  unfold RouterSession.deliverToTcpPeer at stalled
  by_cases closed : session.socketOpen = false
  · rw [if_pos closed] at stalled
    cases (stalled_start_op session .resolve stalled).1
  · rw [if_neg closed] at stalled
    cases queue : session.udpPacketQueue with
    | nil =>
        simp only [queue] at stalled
        exact stalled.waiting queue
    | cons front rest =>
        simp only [queue] at stalled
        cases (stalled_start_op session (.write front) stalled).2

theorem stalled_add (object : RouterSession Addr) (raw : CharArray payloadCapacity) (packet : RouterPacket)
    (stalled : Stalled (object.addRouterPacket raw packet)) :
    Stalled object ∧ (object.addRouterPacket raw packet).pending = object.pending := by
  unfold RouterSession.addRouterPacket at stalled ⊢
  cases queue : object.udpPacketQueue with
  | nil =>
      simp only [queue, List.isEmpty_nil, Bool.not_true, if_true] at stalled
      exact absurd stalled (deliver_not_stalled _)
  | cons front rest =>
      simp only [queue, List.isEmpty_cons, Bool.not_false, Bool.true_eq_false, if_false] at stalled ⊢
      exact ⟨⟨by simp [queue], stalled.unchained, stalled.unwritten⟩, trivial⟩

theorem connect_not_stalled (session : RouterSession Addr) (endpoint : Endpoint Addr) (next : List (Endpoint Addr)) :
    ¬ Stalled (session.asyncConnect endpoint next) := by
  intro stalled
  cases (stalled_start_op _ _ stalled).1

theorem connection_stalls (session : RouterSession Addr) (error : Bool) (iterator : List (Endpoint Addr))
    (stalled : Stalled (session.handleConnection error iterator)) (isOpen : session.socketOpen = true) :
    error = true ∧ SessionOp.close ∈ (session.handleConnection error iterator).pending := by
  unfold RouterSession.handleConnection at stalled ⊢
  cases error with
  | false =>
      rw [if_pos ⟨rfl, isOpen⟩] at stalled
      have read := stalled_start_op _ _ stalled
      refine absurd ⟨stalled.waiting, ?_, ?_⟩ (deliver_not_stalled { session with established := true })
      · simpa [RouterSession.startReadFromTcp, read.1] using stalled.unchained
      · simpa [RouterSession.startReadFromTcp, read.2] using stalled.unwritten
  | true =>
      refine ⟨rfl, ?_⟩
      simp only [Bool.true_eq_false, false_and, if_false] at stalled ⊢
      cases iterator with
      | nil => simp [RouterSession.closeSession]
      | cons endpoint next => exact absurd stalled (connect_not_stalled _ endpoint next)

theorem connect_open (object : RouterSession Addr) (index : Nat) (target : Endpoint Addr) (iterator : List (Endpoint Addr))
    (own : OwnRun object) (found : object.pending[index]? = some (.connect target iterator)) : object.socketOpen = true := by
  obtain ⟨run, reached, rfl⟩ := own
  exact connecting_open _ run reached index target iterator found

theorem stalled_handled (object after : RouterSession Addr) (index : Nat) (op : SessionOp Addr) (completion : Completion Addr)
    (packet : Option RouterPacket) (own : OwnRun object) (found : object.pending[index]? = some op)
    (handled : (object.finishOp index).handle op completion = some (after, packet)) (stalled : Stalled after) :
    Stalled object ∨ (op.fails completion = true ∧ SessionOp.close ∈ after.pending) := by
  by_cases quiet : op.isChain = false ∧ op.writePacket = none
  · have same := quiet_handle object after index op completion packet found quiet.1 quiet.2 handled
    refine .inl ⟨?_, ?_, ?_⟩
    · rw [← same.queue]
      exact stalled.waiting
    · rw [← same.chain]
      exact stalled.unchained
    · rw [← same.writes]
      exact stalled.unwritten
  · cases RouterSession.handled_of_handle handled with
    | resolve result =>
        cases result with
        | found endpoint next => exact absurd stalled (connect_not_stalled _ endpoint next)
        | failed iterator =>
            cases iterator with
            | nil => exact .inr ⟨rfl, by simp [RouterSession.handleResolve, RouterSession.closeSession]⟩
            | cons endpoint next => exact absurd stalled (connect_not_stalled _ endpoint next)
    | connect target iterator error =>
        obtain ⟨rfl, posted⟩ :=
          connection_stalls (object.finishOp index) error iterator stalled (connect_open object index target iterator own found)
        exact .inr ⟨rfl, posted⟩
    | write sent error =>
        cases error with
        | true => exact .inr ⟨rfl, by simp [RouterSession.handleDeliverTcp, RouterSession.closeSession]⟩
        | false =>
            simp only [RouterSession.handleDeliverTcp, if_true] at stalled
            split at stalled
            · exact absurd stalled (deliver_not_stalled _)
            · rename_i empty
              exact absurd (by simpa using empty) stalled.waiting
    | readHeader error bytes fits => exact absurd ⟨rfl, rfl⟩ quiet
    | readPayload size error bytes fits => exact absurd ⟨rfl, rfl⟩ quiet
    | close => exact absurd ⟨rfl, rfl⟩ quiet

theorem stalled_kept (object after : RouterSession Addr) (index : Nat) (op : SessionOp Addr) (completion : Completion Addr)
    (packet : Option RouterPacket) (found : object.pending[index]? = some op)
    (handled : (object.finishOp index).handle op completion = some (after, packet)) (stalled : Stalled object) : Stalled after := by
  have member := List.mem_of_getElem? found
  have unchained : op.isChain = false := by
    have none := List.filter_eq_nil_iff.mp stalled.unchained op member
    simpa using none
  have unwritten : op.writePacket = none := List.filterMap_eq_nil_iff.mp stalled.unwritten op member
  have same := quiet_handle object after index op completion packet found unchained unwritten handled
  refine ⟨?_, ?_, ?_⟩
  · rw [same.queue]
    exact stalled.waiting
  · rw [same.chain]
    exact stalled.unchained
  · rw [same.writes]
    exact stalled.unwritten

theorem stalled_added (object : RouterSession Addr) (raw : CharArray payloadCapacity) (packet : RouterPacket)
    (stalled : Stalled object) : Stalled (object.addRouterPacket raw packet) := by
  have waiting := stalled.waiting
  unfold RouterSession.addRouterPacket
  cases queue : object.udpPacketQueue with
  | nil => exact absurd queue waiting
  | cons front rest =>
      simp only [List.isEmpty_cons, Bool.not_false, Bool.true_eq_false, if_false]
      exact ⟨by simp, stalled.unchained, stalled.unwritten⟩

def StalledClosing (object : RouterSession Addr) : Prop := Stalled object → SessionOp.close ∈ object.pending

theorem stalled_closing_created (tuple : AdrTuple Addr) (raw : CharArray payloadCapacity) (packet : RouterPacket) :
    StalledClosing ((RouterSession.create tuple).addRouterPacket raw packet) := by
  intro stalled
  exact absurd rfl (stalled_add (RouterSession.create tuple) raw packet stalled).1.waiting

theorem stalled_closing_added (object : RouterSession Addr) (raw : CharArray payloadCapacity) (packet : RouterPacket)
    (closing : StalledClosing object) : StalledClosing (object.addRouterPacket raw packet) := by
  intro stalled
  obtain ⟨before, same⟩ := stalled_add object raw packet stalled
  rw [same]
  exact closing before

theorem stalled_closing_handled (object after : RouterSession Addr) (index : Nat) (op : SessionOp Addr)
    (completion : Completion Addr) (packet : Option RouterPacket) (own : OwnRun object)
    (found : object.pending[index]? = some op) (other : op.isClose = false)
    (handled : (object.finishOp index).handle op completion = some (after, packet)) (closing : StalledClosing object) :
    StalledClosing after := by
  intro stalled
  cases stalled_handled object after index op completion packet own found handled stalled with
  | inl before =>
      obtain ⟨fresh, effect⟩ := handle_effect _ after op completion packet handled
      rw [effect.starts.pending]
      exact List.mem_append_left _ (close_kept object index op found other (closing before))
  | inr failed => exact failed.2

end Stalled

namespace SessionManager

variable {Addr : Type} [AsioAddress Addr]

-- A property of every session the map still names. A close takes its session out of the
-- map, so it only has to survive the other handlers.
def EveryMapped (holds : RouterSession Addr → Prop) (manager : SessionManager Addr) : Prop :=
  ∀ tuple session object, manager.udpSessions.find tuple = some session → manager.sessions[session]? = some object → holds object

section EveryMapped

variable (holds : RouterSession Addr → Prop)

theorem every_mapped_remove (manager : SessionManager Addr) (tuple : AdrTuple Addr) (every : EveryMapped holds manager) :
    EveryMapped holds (manager.removeSession tuple) := by
  intro key session object mapped present
  rw [remove_session_find] at mapped
  rw [remove_session_sessions] at present
  by_cases same : key = tuple
  · rw [if_pos same] at mapped
    cases mapped
  · rw [if_neg same] at mapped
    exact every key session object mapped present

theorem every_mapped_set (manager : SessionManager Addr) (session : Nat) (object next : RouterSession Addr)
    (present : manager.sessions[session]? = some object)
    (here : ∀ tuple, manager.udpSessions.find tuple = some session → holds next) (every : EveryMapped holds manager) :
    EveryMapped holds { manager with sessions := manager.sessions.set session next } := by
  intro tuple other otherObject mapped otherPresent
  cases Sequences.set_cases _ _ _ _ _ _ present otherPresent with
  | inl same =>
      obtain ⟨rfl, rfl⟩ := same
      exact here tuple mapped
  | inr apart => exact every tuple other otherObject mapped apart.2

theorem every_mapped_deliver (manager : SessionManager Addr) (raw : CharArray payloadCapacity) (tuple : AdrTuple Addr) (data : Bytes)
    (coherent : manager.Coherent)
    (created : ∀ tuple raw packet, holds ((RouterSession.create tuple).addRouterPacket raw packet))
    (added : ∀ object raw packet, holds object → holds (object.addRouterPacket raw packet))
    (every : EveryMapped holds manager) : EveryMapped holds (manager.deliverFromUdpPeer raw tuple data) := by
  cases deliver_cases manager raw tuple data coherent.own with
  | inl reused =>
      obtain ⟨session, object, mapped, present, _, delivered⟩ := reused
      rw [delivered]
      exact every_mapped_set holds manager session object _ present
        (fun _ _ => added object raw _ (every tuple session object mapped present)) every
  | inr fresh =>
      rw [fresh.2]
      intro key session object mapped present
      cases Sequences.snoc_cases _ _ _ _ present with
      | inl old =>
          rw [OrderedMap.find_assign] at mapped
          by_cases same : key = tuple
          · rw [if_pos same] at mapped
            obtain rfl := Option.some.inj mapped
            simp at old
          · rw [if_neg same] at mapped
            exact every key session object mapped old
      | inr last =>
          rw [last.2]
          exact created tuple raw _

theorem every_mapped_complete (manager next : SessionManager Addr) (session index : Nat) (completion : Completion Addr)
    (packet : Option RouterPacket) (coherent : manager.Coherent)
    (handles : ∀ object after index op completion packet, OwnRun object → object.pending[index]? = some op → op.isClose = false →
      (object.finishOp index).handle op completion = some (after, packet) → holds object → holds after)
    (every : EveryMapped holds manager) (completed : manager.complete session index completion = some (next, packet)) :
    EveryMapped holds next := by
  obtain ⟨object, op, after, present, found, handled, tuple, outcome⟩ :=
    complete_cases manager next session index completion packet completed
  have bound := (List.getElem?_eq_some_iff.mp present).1
  cases outcome with
  | inl closed =>
      obtain ⟨_, rfl⟩ := closed
      rw [handle_connection_failed_eq _ session after (by simp [bound])]
      intro key place placed mapped placedPresent
      rw [remove_session_find] at mapped
      rw [remove_session_sessions] at placedPresent
      by_cases same : key = after.udpTuple
      · rw [if_pos same] at mapped
        cases mapped
      · rw [if_neg same] at mapped
        cases Sequences.set_cases _ _ _ _ _ _ present placedPresent with
        | inl here =>
            obtain ⟨rfl, _⟩ := here
            obtain ⟨mappedObject, mappedPresent, owned⟩ := coherent.own key place mapped
            obtain rfl := Option.some.inj (present.symm.trans mappedPresent)
            exact absurd (owned.symm.trans tuple.symm) same
        | inr apart => exact every key place placed mapped apart.2
  | inr other =>
      obtain ⟨unclosed, rfl⟩ := other
      exact every_mapped_set holds manager session object after present
        (fun key mapped => handles object after index op completion packet (coherent.runs session object present) found unclosed handled
          (every key session object mapped present)) every

end EveryMapped

end SessionManager

namespace Router

variable {Addr : Type} [AsioAddress Addr]

theorem reachable_every_mapped (holds : RouterSession Addr → Prop)
    (created : ∀ tuple raw packet, holds ((RouterSession.create tuple).addRouterPacket raw packet))
    (added : ∀ object raw packet, holds object → holds (object.addRouterPacket raw packet))
    (handles : ∀ object after index op completion packet, OwnRun object → object.pending[index]? = some op → op.isClose = false →
      (object.finishOp index).handle op completion = some (after, packet) → holds object → holds after)
    (router : Router Addr) (reached : Machine.Reachable step create router) :
    router.manager.Coherent ∧ router.manager.EveryMapped holds := by
  apply Machine.reachable_invariant (fun state => state.manager.Coherent ∧ state.manager.EveryMapped holds) ?_ create router ?_ reached
  · intro state event next both stepped
    refine ⟨coherent_step state next event both.1 stepped, ?_⟩
    rcases step_manager state next event stepped with
      ⟨error, peer, data, raw, _, same⟩ | ⟨session, index, completion, raw, packet, _, completed⟩ | ⟨_, _, _, same⟩
    · rw [same, SessionManager.handleReceive]
      by_cases dispatched : error = false ∨ data.length > 0
      · rw [if_pos dispatched]
        exact SessionManager.every_mapped_deliver holds state.manager raw _ data both.1 created added both.2
      · rw [if_neg dispatched]
        exact SessionManager.every_mapped_remove holds state.manager _ both.2
    · exact SessionManager.every_mapped_complete holds state.manager next.manager session index completion packet both.1 handles
        both.2 completed
    · rw [same]
      exact both.2
  · refine ⟨SessionManager.coherent_create, ?_⟩
    intro tuple session object _ present
    simp [create, SessionManager.create] at present

theorem reachable_stalled_closing (router : Router Addr) (reached : Machine.Reachable step create router) :
    router.manager.Coherent ∧ router.manager.EveryMapped StalledClosing :=
  reachable_every_mapped StalledClosing stalled_closing_created stalled_closing_added stalled_closing_handled router reached

-- In the map a queue never waits in vain: its connection is being opened, its first
-- packet is being written, or the session is about to leave the map.
theorem uplink_never_stalls (router : Router Addr) (reached : Machine.Reachable step create router) (tuple : AdrTuple Addr)
    (session : Nat) (object : RouterSession Addr) (mapped : router.manager.udpSessions.find tuple = some session)
    (present : router.manager.sessions[session]? = some object) (waiting : object.udpPacketQueue ≠ []) :
    (∃ op ∈ object.pending, op.isChain = true) ∨
      (∃ packet, SessionOp.write packet ∈ object.pending ∧ object.udpPacketQueue.head? = some packet) ∨
      SessionOp.close ∈ object.pending := by
  obtain ⟨coherent, closing⟩ := reachable_stalled_closing router reached
  obtain ⟨run, runReached, rfl⟩ := coherent.runs session object present
  have contract := reachable_contract _ run runReached
  cases chain : chainOf run.session.pending with
  | cons op rest =>
      have member : op ∈ chainOf run.session.pending := by simp [chain]
      exact .inl ⟨op, List.mem_filter.mp member⟩
  | nil =>
      cases written : writesOf run.session.pending with
      | cons packet rest =>
          have member : packet ∈ writesOf run.session.pending := by simp [written]
          obtain ⟨op, pending, same⟩ := List.mem_filterMap.mp member
          cases op with
          | write sent =>
              cases same
              exact .inr (.inl ⟨packet, pending, contract.frontWritten packet member⟩)
          | resolve | connect _ _ | readHeader | readPayload _ | close => cases same
      | nil => exact .inr (.inr (closing tuple session run.session mapped present ⟨waiting, chain, written⟩))

theorem uplink_never_stalls_reconnecting :
    ∃ (router : Router Ipv4) (object : RouterSession Ipv4), Machine.run step create reconnectingPeer = some router ∧
      router.manager.sessions[2]? = some object ∧ object.udpPacketQueue.length = 1 ∧
      ((∃ op ∈ object.pending, op.isChain = true) ∨
        (∃ packet, SessionOp.write packet ∈ object.pending ∧ object.udpPacketQueue.head? = some packet) ∨
        SessionOp.close ∈ object.pending) := by
  obtain ⟨router, object, ran, mapped, present, waiting⟩ : ∃ (router : Router Ipv4) (object : RouterSession Ipv4),
      Machine.run step create reconnectingPeer = some router ∧ router.manager.udpSessions.find samplePeer = some 2 ∧
      router.manager.sessions[2]? = some object ∧ object.udpPacketQueue.length = 1 := ⟨_, _, rfl, by decide, rfl, rfl⟩
  have nonempty : object.udpPacketQueue ≠ [] := by
    intro empty
    simp [empty] at waiting
  exact ⟨router, object, ran, present, waiting,
    uplink_never_stalls router ⟨_, ran⟩ samplePeer 2 object mapped present nonempty⟩

theorem stalled_step (router next : Router Addr) (event : RouterEvent Addr) (coherent : router.manager.Coherent)
    (stepped : router.step event = some next) (session : Nat) (object : RouterSession Addr)
    (present : router.manager.sessions[session]? = some object) (stalled : Stalled object) :
    ∃ after, next.manager.sessions[session]? = some after ∧ after.udpTuple = object.udpTuple ∧ Stalled after := by
  have bound := (List.getElem?_eq_some_iff.mp present).1
  rcases step_manager router next event stepped with
    ⟨error, peer, data, raw, _, same⟩ | ⟨other, index, completion, raw, packet, _, completed⟩ | ⟨_, _, _, same⟩
  · rw [same, SessionManager.handleReceive]
    by_cases dispatched : error = false ∨ data.length > 0
    · rw [if_pos dispatched]
      cases SessionManager.deliver_cases router.manager raw peer.udpTuple data coherent.own with
      | inl reused =>
          obtain ⟨taker, taken, _, takenPresent, _, delivered⟩ := reused
          rw [delivered]
          by_cases here : taker = session
          · subst here
            obtain rfl := Option.some.inj (present.symm.trans takenPresent)
            obtain ⟨_, starts, _⟩ := add_router_packet_starts object raw (udpPacket peer.udpTuple data)
            exact ⟨_, List.getElem?_set_self bound, starts.tuple, stalled_added object raw _ stalled⟩
          · exact ⟨object, (List.getElem?_set_ne here).trans present, rfl, stalled⟩
      | inr created =>
          rw [created.2]
          exact ⟨object, (List.getElem?_append_left bound).trans present, rfl, stalled⟩
    · rw [if_neg dispatched, SessionManager.remove_session_sessions]
      exact ⟨object, present, rfl, stalled⟩
  · obtain ⟨owner, op, after, ownerPresent, found, handled, tuple, outcome⟩ :=
      SessionManager.complete_cases router.manager next.manager other index completion packet completed
    have sessions :=
      SessionManager.completed_sessions router.manager next.manager other op owner after ownerPresent outcome
    rw [sessions]
    by_cases here : other = session
    · subst here
      obtain rfl := Option.some.inj (present.symm.trans ownerPresent)
      exact ⟨after, List.getElem?_set_self bound, tuple, stalled_kept object after index op completion packet found handled stalled⟩
    · exact ⟨object, (List.getElem?_set_ne here).trans present, rfl, stalled⟩
  · rw [same]
    exact ⟨object, present, rfl, stalled⟩

theorem mapped_later (router later : Router Addr) (coherent : router.manager.Coherent) (events : List (RouterEvent Addr))
    (ran : Machine.run step router events = some later) (tuple : AdrTuple Addr) (session other : Nat)
    (mapped : router.manager.udpSessions.find tuple = some session) (found : later.manager.udpSessions.find tuple = some other) :
    other = session ∨ router.manager.sessions.length ≤ other := by
  have kept := Machine.run_invariant
    (fun state : Router Addr => state.manager.Coherent ∧ router.manager.sessions.length ≤ state.manager.sessions.length ∧
      ∀ place, state.manager.udpSessions.find tuple = some place → place = session ∨ router.manager.sessions.length ≤ place)
    (fun state event next before stepped => by
      have moved := step_moved state next event before.1 stepped
      have grown := SessionManager.moved_grown state.manager next.manager moved
      refine ⟨coherent_step state next event before.1 stepped, Nat.le_trans before.2.1 grown, fun place named => ?_⟩
      cases SessionManager.moved_map state.manager next.manager moved tuple place named with
      | inl old => exact before.2.2 place old
      | inr fresh => exact .inr (fresh ▸ before.2.1))
    router later events
    ⟨coherent, Nat.le_refl _, fun place named => .inl (Option.some.inj (named.symm.trans mapped))⟩ ran
  exact kept.2.2 other found

theorem stalled_run (router later : Router Addr) (coherent : router.manager.Coherent) (events : List (RouterEvent Addr))
    (ran : Machine.run step router events = some later) (session : Nat) (object : RouterSession Addr)
    (present : router.manager.sessions[session]? = some object) (stalled : Stalled object) :
    ∃ after, later.manager.sessions[session]? = some after ∧ after.udpTuple = object.udpTuple ∧ Stalled after := by
  have kept := Machine.run_invariant
    (fun state : Router Addr => state.manager.Coherent ∧ ∃ after, state.manager.sessions[session]? = some after ∧
      after.udpTuple = object.udpTuple ∧ Stalled after)
    (fun state event next before stepped => by
      obtain ⟨whole, middle, middlePresent, owned, waits⟩ := before
      obtain ⟨after, afterPresent, same, still⟩ := stalled_step state next event whole stepped session middle middlePresent waits
      exact ⟨coherent_step state next event whole stepped, after, afterPresent, same.trans owned, still⟩)
    router later events ⟨coherent, object, present, rfl, stalled⟩ ran
  exact kept.2

def Opens (router : Router Addr) (peer : Endpoint Addr) : Prop :=
  ∀ error data memory, (error = false ∨ data.length > 0) → data.length ≤ networkBufferSize →
    frameFits peer.udpTuple data = true →
    ∃ reopened fresh, router.step (.received error peer data memory) = some reopened ∧
      reopened.manager.udpSessions.find peer.udpTuple = some router.manager.sessions.length ∧
      reopened.manager.sessions[router.manager.sessions.length]? = some fresh ∧
      fresh.udpPacketQueue = [.copyConstruct memory (udpPacket peer.udpTuple data)] ∧ fresh.pending = [.resolve]

theorem unmapped_opens (router : Router Addr) (coherent : router.manager.Coherent) (peer : Endpoint Addr)
    (unmapped : router.manager.udpSessions.find peer.udpTuple = none) : router.Opens peer := by
  intro error data memory dispatched fits inside
  cases SessionManager.deliver_cases router.manager memory peer.udpTuple data coherent.own with
  | inl reused =>
      obtain ⟨other, _, mapped, _⟩ := reused
      rw [unmapped] at mapped
      cases mapped
  | inr created =>
      refine ⟨_, (RouterSession.create peer.udpTuple).addRouterPacket memory (udpPacket peer.udpTuple data),
        if_pos ⟨fits, fun _ => inside⟩, ?_, ?_, ?_, ?_⟩
      · simp [SessionManager.handleReceive, dispatched, created.2, OrderedMap.find_assign]
      · simp [SessionManager.handleReceive, dispatched, created.2]
      · rfl
      · rfl

def Leaves (router : Router Addr) (tuple : AdrTuple Addr) (session : Nat) : Prop :=
  ∃ object index, router.manager.sessions[session]? = some object ∧ Stalled object ∧ object.pending[index]? = some .close ∧
    ∀ raw, ∃ closed, router.step (.completed session index .posted raw) = some closed ∧
      ∀ key, closed.manager.udpSessions.find key = if key = tuple then none else router.manager.udpSessions.find key

-- As long as the map names a session that gave up, it is about to leave; once its entry
-- is gone the peer's next datagram makes another, and no session from before comes back.
theorem failed_uplink_reopens (router later : Router Addr) (reached : Machine.Reachable step create router) (peer : Endpoint Addr)
    (session : Nat) (object : RouterSession Addr) (mapped : router.manager.udpSessions.find peer.udpTuple = some session)
    (present : router.manager.sessions[session]? = some object) (stalled : Stalled object) (events : List (RouterEvent Addr))
    (ran : Machine.run step router events = some later) :
    (later.manager.udpSessions.find peer.udpTuple = some session → later.Leaves peer.udpTuple session) ∧
      (later.manager.udpSessions.find peer.udpTuple = none → later.Opens peer) ∧
      ∀ other, later.manager.udpSessions.find peer.udpTuple = some other →
        other = session ∨ router.manager.sessions.length ≤ other := by
  obtain ⟨before, ranBefore⟩ := reached
  have coherent := coherent_run before router ranBefore
  obtain ⟨laterCoherent, closing⟩ := reachable_stalled_closing later
    ⟨before ++ events, by rw [Machine.run_append, ranBefore]; exact ran⟩
  refine ⟨fun still => ?_, unmapped_opens later laterCoherent peer, fun other =>
    mapped_later router later coherent events ran peer.udpTuple session other mapped⟩
  obtain ⟨after, afterPresent, _, waits⟩ := stalled_run router later coherent events ran session object present stalled
  obtain ⟨owner, ownerPresent, owned⟩ := laterCoherent.own peer.udpTuple session still
  obtain rfl := Option.some.inj (afterPresent.symm.trans ownerPresent)
  obtain ⟨index, found⟩ := List.mem_iff_getElem?.mp (closing peer.udpTuple session after still afterPresent waits)
  refine ⟨after, index, afterPresent, waits, found, fun raw => ?_⟩
  refine ⟨_, close_step later session index raw after afterPresent found, fun key => ?_⟩
  rw [SessionManager.remove_session_find, owned]

def unresolvedServer : List (RouterEvent Ipv4) :=
  [.received false ⟨.ofOctets 1 2 3 4, 5⟩ [1] CharArray.zeroed, .completed 0 0 (.resolved (.failed [])) CharArray.zeroed]

def lostAndBack : List (RouterEvent Ipv4) :=
  [.received false ⟨.ofOctets 1 2 3 4, 5⟩ [2] CharArray.zeroed, .completed 0 0 .posted CharArray.zeroed]

theorem failed_uplink_reopens_unresolved :
    ∃ router later : Router Ipv4, Machine.run step create unresolvedServer = some router ∧
      router.Leaves samplePeer 0 ∧ Machine.run step router lostAndBack = some later ∧
      later.manager.udpSessions.find samplePeer = none ∧ later.Opens ⟨.ofOctets 1 2 3 4, 5⟩ := by
  obtain ⟨router, later, object, ran, ranLater, mapped, present, unmapped, waiting, unchained, unwritten⟩ :
      ∃ (router later : Router Ipv4) (object : RouterSession Ipv4), Machine.run step create unresolvedServer = some router ∧
        Machine.run step router lostAndBack = some later ∧ router.manager.udpSessions.find samplePeer = some 0 ∧
        router.manager.sessions[0]? = some object ∧ later.manager.udpSessions.find samplePeer = none ∧
        object.udpPacketQueue.length = 1 ∧ chainOf object.pending = [] ∧ writesOf object.pending = [] :=
    ⟨_, _, _, rfl, rfl, by decide, rfl, by decide, rfl, rfl, rfl⟩
  have stalled : Stalled object := by
    refine ⟨fun empty => ?_, unchained, unwritten⟩
    simp [empty] at waiting
  have here := failed_uplink_reopens router router ⟨_, ran⟩ ⟨.ofOctets 1 2 3 4, 5⟩ 0 object mapped present stalled [] rfl
  have there := failed_uplink_reopens router later ⟨_, ran⟩ ⟨.ofOctets 1 2 3 4, 5⟩ 0 object mapped present stalled lostAndBack ranLater
  exact ⟨router, later, ran, here.1 mapped, ranLater, unmapped, there.2.1 unmapped⟩

end Router

end Rart
