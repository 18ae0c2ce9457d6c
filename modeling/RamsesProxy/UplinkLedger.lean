import RamsesProxy.Router

set_option autoImplicit false

namespace Rart

section Writes

variable {Addr : Type}

theorem reachable_contract (tuple : AdrTuple Addr) (run : SessionRun Addr)
    (reached : Machine.Reachable SessionRun.step (.create tuple) run) : SessionContract run := by
  obtain ⟨channel, channelReached, refines⟩ := reachable_refines tuple run reached
  exact refines_contract run channel refines (Channel.reachable_sound channel channelReached)

theorem handled_keeps_queue (object after : RouterSession Addr) (index : Nat) (op : SessionOp Addr)
    (completion : Completion Addr) (packet : Option RouterPacket) (own : OwnRun object)
    (found : object.pending[index]? = some op)
    (handled : (object.finishOp index).handle op completion = some (after, packet)) :
    (SessionRun.delivered op completion ++ after.udpPacketQueue).map RouterPacket.contents =
      object.udpPacketQueue.map RouterPacket.contents := by
  obtain ⟨run, reached, rfl⟩ := own
  have stepped : run.step (.complete index completion) = some (run.record op completion after) := by
    simp only [SessionRun.step, RouterSession.complete, found, handled]
  have before := (reachable_contract _ run reached).kept
  have later := (reachable_contract _ _ (Machine.reachable_step _ _ _ _ reached stepped)).kept
  have same : (run.written ++ SessionRun.delivered op completion ++ after.udpPacketQueue).map RouterPacket.contents =
      (run.written ++ run.session.udpPacketQueue).map RouterPacket.contents := later.trans before.symm
  simp only [List.append_assoc, List.map_append] at same ⊢
  exact List.append_cancel_left same

end Writes

namespace SessionManager

variable {Addr : Type} [AsioAddress Addr]

def sessionsOf (tuple : AdrTuple Addr) (manager : SessionManager Addr) : List Nat :=
  (List.range manager.sessions.length).filter fun session =>
    manager.sessions[session]?.map RouterSession.udpTuple = some tuple

theorem mem_sessions_of (manager : SessionManager Addr) (tuple : AdrTuple Addr) (session : Nat) :
    session ∈ manager.sessionsOf tuple ↔ ∃ object, manager.sessions[session]? = some object ∧ object.udpTuple = tuple := by
  simp only [sessionsOf, List.mem_filter, List.mem_range, decide_eq_true_eq, Option.map_eq_some_iff]
  constructor
  · rintro ⟨_, present⟩
    exact present
  · rintro ⟨object, present, owned⟩
    exact ⟨(List.getElem?_eq_some_iff.mp present).1, object, present, owned⟩

theorem sessions_of_congr (manager other : SessionManager Addr) (same : other.sessions = manager.sessions) (tuple : AdrTuple Addr) :
    other.sessionsOf tuple = manager.sessionsOf tuple := by
  simp only [sessionsOf, same]

theorem sessions_of_set (manager : SessionManager Addr) (tuple : AdrTuple Addr) (session : Nat) (object next : RouterSession Addr)
    (present : manager.sessions[session]? = some object) (same : next.udpTuple = object.udpTuple) :
    ({ manager with sessions := manager.sessions.set session next } : SessionManager Addr).sessionsOf tuple =
      manager.sessionsOf tuple := by
  simp only [sessionsOf, List.length_set]
  apply List.filter_congr
  intro other _
  have bound := (List.getElem?_eq_some_iff.mp present).1
  by_cases here : session = other
  · subst here
    rw [List.getElem?_set_self bound, present, Option.map_some, Option.map_some, same]
  · rw [List.getElem?_set_ne here]

theorem sessions_of_created (manager : SessionManager Addr) (tuple : AdrTuple Addr) (object : RouterSession Addr)
    (map : OrderedMap (AdrTuple.less : AdrTuple Addr → AdrTuple Addr → Bool) Nat) :
    (⟨manager.sessions ++ [object], map⟩ : SessionManager Addr).sessionsOf tuple =
      manager.sessionsOf tuple ++ if object.udpTuple = tuple then [manager.sessions.length] else [] := by
  simp only [sessionsOf, List.length_append, List.length_singleton, List.range_succ, List.filter_append]
  congr 1
  · apply List.filter_congr
    intro other member
    rw [List.getElem?_append_left (List.mem_range.mp member)]
  · simp [List.filter_cons]

theorem sessions_of_mapped (manager : SessionManager Addr) (own : KeysOwn manager) (latest : LatestMapped manager)
    (tuple : AdrTuple Addr) (session : Nat) (mapped : manager.udpSessions.find tuple = some session) :
    ∃ front, manager.sessionsOf tuple = front ++ [session] ∧ session ∉ front := by
  apply Sequences.greatest_last
  · exact List.Pairwise.filter _ List.pairwise_lt_range
  · exact (mem_sessions_of manager tuple session).mpr (own tuple session mapped)
  · intro other member
    obtain ⟨object, present, rfl⟩ := (mem_sessions_of manager tuple other).mp member
    exact latest other object session present mapped

end SessionManager

namespace Router

variable {Addr : Type} [AsioAddress Addr]

-- The datagrams of the peer that handle_receive passes on to the session manager.
def arrival (tuple : AdrTuple Addr) : RouterEvent Addr → List Bytes
  | .received error peer data _ => if (error = false ∨ data.length > 0) ∧ peer.udpTuple = tuple then [data] else []
  | .completed _ _ _ _ | .sent _ _ => []

def arrivals (tuple : AdrTuple Addr) (events : List (RouterEvent Addr)) : List Bytes := events.flatMap (arrival tuple)

-- The same datagrams, by the session object the map names once they have been passed on.
def accepts (session : Nat) (_router : Router Addr) (event : RouterEvent Addr) (next : Router Addr) : List Bytes :=
  match event with
  | .received error peer data _ =>
      if (error = false ∨ data.length > 0) ∧ next.manager.udpSessions.find peer.udpTuple = some session then [data] else []
  | .completed _ _ _ _ | .sent _ _ => []

def writes (session : Nat) (router : Router Addr) (event : RouterEvent Addr) (_next : Router Addr) : List RouterPacket :=
  match event with
  | .completed other index completion _ =>
      if other = session then
        match router.manager.sessions[session]?.bind fun object => object.pending[index]? with
        | some op => SessionRun.delivered op completion
        | none => []
      else []
  | .received _ _ _ _ | .sent _ _ => []

def acceptedBy (session : Nat) (events : List (RouterEvent Addr)) : List Bytes :=
  Machine.outputs step (accepts session) create events

def writtenBy (session : Nat) (events : List (RouterEvent Addr)) : List RouterPacket :=
  Machine.outputs step (writes session) create events

structure UplinkLedger (events : List (RouterEvent Addr)) (router : Router Addr) : Prop where
  routed : ∀ tuple, (router.manager.sessionsOf tuple).flatMap (acceptedBy · events) = arrivals tuple events
  kept : ∀ (session : Nat) object, router.manager.sessions[session]? = some object →
    (writtenBy session events ++ object.udpPacketQueue).map RouterPacket.contents =
      (acceptedBy session events).map fun data => (udpPacket object.udpTuple data).contents
  unborn : ∀ session, router.manager.sessions.length ≤ session → writtenBy session events = [] ∧ acceptedBy session events = []

theorem uplink_ledger_create : UplinkLedger [] (create : Router Addr) := by
  refine ⟨fun tuple => rfl, fun session object present => ?_, fun session _ => ⟨rfl, rfl⟩⟩
  simp [create, SessionManager.create] at present

section Step

variable (events : List (RouterEvent Addr)) (router next : Router Addr) (event : RouterEvent Addr)

theorem arrivals_snoc (tuple : AdrTuple Addr) : arrivals tuple (events ++ [event]) = arrivals tuple events ++ arrival tuple event := by
  simp [arrivals]

theorem accepted_snoc (session : Nat) (ran : Machine.run step create events = some router) (stepped : router.step event = some next) :
    acceptedBy session (events ++ [event]) = acceptedBy session events ++ accepts session router event next :=
  Machine.outputs_snoc (accepts session) create router next events event ran stepped

theorem written_snoc (session : Nat) (ran : Machine.run step create events = some router) (stepped : router.step event = some next) :
    writtenBy session (events ++ [event]) = writtenBy session events ++ writes session router event next :=
  Machine.outputs_snoc (writes session) create router next events event ran stepped

theorem uplink_ledger_quiet (ran : Machine.run step create events = some router) (stepped : router.step event = some next)
    (ledger : UplinkLedger events router) (silent : ∀ tuple, arrival tuple event = [])
    (unrouted : ∀ session, accepts session router event next = [])
    (sameSessions : ∀ tuple, next.manager.sessionsOf tuple = router.manager.sessionsOf tuple)
    (sameLength : next.manager.sessions.length = router.manager.sessions.length)
    (unwritten : ∀ session, router.manager.sessions.length ≤ session → writes session router event next = [])
    (kept : ∀ (session : Nat) after, next.manager.sessions[session]? = some after →
      ∃ before, router.manager.sessions[session]? = some before ∧ after.udpTuple = before.udpTuple ∧
        (writes session router event next ++ after.udpPacketQueue).map RouterPacket.contents =
          before.udpPacketQueue.map RouterPacket.contents) : UplinkLedger (events ++ [event]) next := by
  have accepted : ∀ session, acceptedBy session (events ++ [event]) = acceptedBy session events := by
    intro session
    rw [accepted_snoc events router next event session ran stepped, unrouted, List.append_nil]
  constructor
  · intro tuple
    rw [sameSessions, arrivals_snoc, silent, List.append_nil, ← ledger.routed tuple]
    exact List.flatMap_congr fun session _ => accepted session
  · intro session after present
    obtain ⟨before, beforePresent, tuple, same⟩ := kept session after present
    rw [accepted, tuple, ← ledger.kept session before beforePresent, written_snoc events router next event session ran stepped,
      List.append_assoc, List.map_append, same, List.map_append]
  · intro session beyond
    rw [sameLength] at beyond
    obtain ⟨unwrittenBefore, unaccepted⟩ := ledger.unborn session beyond
    rw [accepted, written_snoc events router next event session ran stepped, unwrittenBefore, unwritten session beyond]
    exact ⟨rfl, unaccepted⟩

theorem uplink_ledger_unchanged (ran : Machine.run step create events = some router) (stepped : router.step event = some next)
    (ledger : UplinkLedger events router) (silent : ∀ tuple, arrival tuple event = [])
    (unrouted : ∀ session, accepts session router event next = []) (unwritten : ∀ session, writes session router event next = [])
    (same : next.manager.sessions = router.manager.sessions) : UplinkLedger (events ++ [event]) next := by
  apply uplink_ledger_quiet events router next event ran stepped ledger silent unrouted
  · exact SessionManager.sessions_of_congr router.manager next.manager same
  · rw [same]
  · exact fun session _ => unwritten session
  · intro session after present
    rw [same] at present
    exact ⟨after, present, rfl, by rw [unwritten, List.nil_append]⟩

theorem uplink_ledger_completed (session index : Nat) (completion : Completion Addr) (raw : CharArray payloadCapacity)
    (packet : Option RouterPacket) (ran : Machine.run step create events = some router)
    (stepped : router.step (.completed session index completion raw) = some next) (ledger : UplinkLedger events router)
    (coherent : router.manager.Coherent)
    (completed : router.manager.complete session index completion = some (next.manager, packet)) :
    UplinkLedger (events ++ [.completed session index completion raw]) next := by
  obtain ⟨object, op, after, present, found, handled, tuple, outcome⟩ :=
    SessionManager.complete_cases router.manager next.manager session index completion packet completed
  have sessions :=
    SessionManager.completed_sessions router.manager next.manager session op object after present outcome
  have wrote : writes session router (.completed session index completion raw) next = SessionRun.delivered op completion := by
    simp only [writes, if_true, present, Option.bind_some, found]
  apply uplink_ledger_quiet events router next _ ran stepped ledger (fun _ => rfl) (fun _ => rfl)
  · intro key
    rw [SessionManager.sessions_of_congr { router.manager with sessions := router.manager.sessions.set session after }
      next.manager sessions]
    exact SessionManager.sessions_of_set router.manager key session object after present tuple
  · rw [sessions, List.length_set]
  · intro other beyond
    have bound := (List.getElem?_eq_some_iff.mp present).1
    have apart : session ≠ other := by omega
    simp only [writes, if_neg apart]
  · intro other otherAfter otherPresent
    rw [sessions] at otherPresent
    rcases Sequences.set_cases _ _ _ _ _ _ present otherPresent with ⟨rfl, rfl⟩ | ⟨apart, unchanged⟩
    · refine ⟨object, present, tuple, ?_⟩
      rw [wrote]
      exact handled_keeps_queue object otherAfter index op completion packet (coherent.runs other object present) found handled
    · refine ⟨otherAfter, unchanged, rfl, ?_⟩
      simp only [writes, if_neg (Ne.symm apart), List.nil_append]

structure Taken (tuple : AdrTuple Addr) (data : Bytes) (taker : Nat) : Prop where
  accepts : ∀ session, accepts session router event next = if session = taker then [data] else []
  arrival : ∀ key, arrival key event = if tuple = key then [data] else []
  unwritten : ∀ session, writes session router event next = []
  newest : ∃ front, next.manager.sessionsOf tuple = front ++ [taker] ∧ taker ∉ front ∧
    (router.manager.sessionsOf tuple).flatMap (acceptedBy · events) = (front ++ [taker]).flatMap (acceptedBy · events)
  others : ∀ key, key ≠ tuple → next.manager.sessionsOf key = router.manager.sessionsOf key ∧ taker ∉ router.manager.sessionsOf key
  objects : ∀ (session : Nat) after, next.manager.sessions[session]? = some after →
    (session = taker ∧ after.udpTuple = tuple ∧
      (writtenBy session events ++ after.udpPacketQueue).map RouterPacket.contents =
        (acceptedBy session events ++ [data]).map fun data => (udpPacket tuple data).contents) ∨
    (session ≠ taker ∧ router.manager.sessions[session]? = some after)
  beyond : ∀ session, next.manager.sessions.length ≤ session → router.manager.sessions.length ≤ session ∧ session ≠ taker

theorem uplink_ledger_taken (tuple : AdrTuple Addr) (data : Bytes) (taker : Nat)
    (ran : Machine.run step create events = some router) (stepped : router.step event = some next)
    (ledger : UplinkLedger events router) (taken : Taken events router next event tuple data taker) :
    UplinkLedger (events ++ [event]) next := by
  have accepted : ∀ session, session ≠ taker → acceptedBy session (events ++ [event]) = acceptedBy session events := by
    intro session apart
    rw [accepted_snoc events router next event session ran stepped, taken.accepts, if_neg apart, List.append_nil]
  have acceptedHere : acceptedBy taker (events ++ [event]) = acceptedBy taker events ++ [data] := by
    rw [accepted_snoc events router next event taker ran stepped, taken.accepts, if_pos rfl]
  have written : ∀ session, writtenBy session (events ++ [event]) = writtenBy session events := by
    intro session
    rw [written_snoc events router next event session ran stepped, taken.unwritten, List.append_nil]
  constructor
  · intro key
    rw [arrivals_snoc, taken.arrival, ← ledger.routed key]
    by_cases same : tuple = key
    · subst same
      obtain ⟨front, sessions, apart, before⟩ := taken.newest
      rw [if_pos rfl, sessions, before]
      exact Sequences.flat_map_grown front taker _ _ [data] apart acceptedHere accepted
    · obtain ⟨sessions, absent⟩ := taken.others key (Ne.symm same)
      rw [if_neg same, List.append_nil, sessions]
      exact List.flatMap_congr fun session member => accepted session fun equal => absent (equal ▸ member)
  · intro session after present
    rw [written]
    rcases taken.objects session after present with ⟨rfl, owned, kept⟩ | ⟨apart, unchanged⟩
    · rw [acceptedHere, owned, kept]
    · rw [accepted session apart]
      exact ledger.kept session after unchanged
  · intro session beyond
    obtain ⟨before, apart⟩ := taken.beyond session beyond
    rw [written, accepted session apart]
    exact ledger.unborn session before

end Step

section Received

variable (events : List (RouterEvent Addr)) (router next : Router Addr) (error : Bool) (peer : Endpoint Addr) (data : Bytes)
  (raw : CharArray payloadCapacity)

theorem received_accepts (taker session : Nat) (dispatched : error = false ∨ data.length > 0)
    (mapped : next.manager.udpSessions.find peer.udpTuple = some taker) :
    accepts session router (.received error peer data raw) next = if session = taker then [data] else [] := by
  simp only [accepts, dispatched, true_and, mapped, Option.some.injEq]
  by_cases same : session = taker
  · rw [if_pos same, if_pos same.symm]
  · rw [if_neg same, if_neg (Ne.symm same)]

theorem received_arrival (key : AdrTuple Addr) (dispatched : error = false ∨ data.length > 0) :
    arrival key (.received error peer data raw) = if peer.udpTuple = key then [data] else [] := by
  simp only [arrival, dispatched, true_and]

theorem taken_reused (session : Nat) (object : RouterSession Addr) (coherent : router.manager.Coherent)
    (ledger : UplinkLedger events router) (dispatched : error = false ∨ data.length > 0)
    (mapped : router.manager.udpSessions.find peer.udpTuple = some session)
    (present : router.manager.sessions[session]? = some object) (owned : object.udpTuple = peer.udpTuple)
    (delivered : next.manager = { router.manager with
      sessions := router.manager.sessions.set session (object.addRouterPacket raw (udpPacket peer.udpTuple data)) }) :
    Taken events router next (.received error peer data raw) peer.udpTuple data session := by
  obtain ⟨_, starts, _, _, queue⟩ := add_router_packet_starts object raw (udpPacket peer.udpTuple data)
  have bound := (List.getElem?_eq_some_iff.mp present).1
  have sessions : ∀ key, next.manager.sessionsOf key = router.manager.sessionsOf key := by
    intro key
    rw [delivered]
    exact SessionManager.sessions_of_set router.manager key session object _ present starts.tuple
  refine ⟨fun other => received_accepts router next error peer data raw session other dispatched (by rw [delivered]; exact mapped),
    fun key => received_arrival error peer data raw key dispatched, fun _ => rfl, ?_, ?_, ?_, ?_⟩
  · obtain ⟨front, whole, apart⟩ :=
      SessionManager.sessions_of_mapped router.manager coherent.own coherent.latest peer.udpTuple session mapped
    exact ⟨front, (sessions _).trans whole, apart, by rw [whole]⟩
  · intro key apart
    refine ⟨sessions key, fun member => ?_⟩
    obtain ⟨other, otherPresent, otherOwned⟩ := (SessionManager.mem_sessions_of router.manager key session).mp member
    obtain rfl := Option.some.inj (present.symm.trans otherPresent)
    exact apart (otherOwned.symm.trans owned)
  · intro other after otherPresent
    rw [delivered] at otherPresent
    rcases Sequences.set_cases _ _ _ _ _ _ present otherPresent with ⟨rfl, rfl⟩ | unchanged
    · refine .inl ⟨rfl, starts.tuple.trans owned, ?_⟩
      rw [queue, ← List.append_assoc, List.map_append, ledger.kept other object present, List.map_append, owned]
      simp only [List.map_cons, List.map_nil, RouterPacket.copyConstruct, RouterPacket.copy_contents]
    · exact .inr unchanged
  · intro other beyond
    rw [delivered, List.length_set] at beyond
    exact ⟨beyond, by omega⟩

theorem taken_created (ledger : UplinkLedger events router)
    (dispatched : error = false ∨ data.length > 0)
    (delivered : next.manager = {
      sessions := router.manager.sessions ++ [(RouterSession.create peer.udpTuple).addRouterPacket raw (udpPacket peer.udpTuple data)]
      udpSessions := router.manager.udpSessions.assign peer.udpTuple router.manager.sessions.length }) :
    Taken events router next (.received error peer data raw) peer.udpTuple data router.manager.sessions.length := by
  obtain ⟨_, starts, _, _, queue⟩ :=
    add_router_packet_starts (RouterSession.create peer.udpTuple) raw (udpPacket peer.udpTuple data)
  obtain ⟨unwritten, unaccepted⟩ := ledger.unborn router.manager.sessions.length (Nat.le_refl _)
  have tuple : ((RouterSession.create peer.udpTuple).addRouterPacket raw (udpPacket peer.udpTuple data)).udpTuple =
      peer.udpTuple := starts.tuple
  have absent : ∀ key, router.manager.sessions.length ∉ router.manager.sessionsOf key := by
    intro key member
    obtain ⟨_, present, _⟩ := (SessionManager.mem_sessions_of router.manager key _).mp member
    simp at present
  have mapped : next.manager.udpSessions.find peer.udpTuple = some router.manager.sessions.length := by
    rw [delivered, OrderedMap.find_assign, if_pos rfl]
  refine ⟨fun other => received_accepts router next error peer data raw _ other dispatched mapped,
    fun key => received_arrival error peer data raw key dispatched, fun _ => rfl, ?_, ?_, ?_, ?_⟩
  · refine ⟨router.manager.sessionsOf peer.udpTuple, ?_, absent _, ?_⟩
    · rw [delivered, SessionManager.sessions_of_created, if_pos tuple]
    · simp [unaccepted]
  · intro key apart
    refine ⟨?_, absent key⟩
    rw [delivered, SessionManager.sessions_of_created, tuple, if_neg (Ne.symm apart), List.append_nil]
  · intro other after otherPresent
    rw [delivered] at otherPresent
    rcases Sequences.snoc_cases _ _ _ _ otherPresent with old | ⟨rfl, rfl⟩
    · have bound := (List.getElem?_eq_some_iff.mp old).1
      exact .inr ⟨by omega, old⟩
    · refine .inl ⟨rfl, tuple, ?_⟩
      rw [queue, unwritten, unaccepted]
      simp [RouterSession.create, RouterPacket.copyConstruct, RouterPacket.copy_contents]
  · intro other beyond
    rw [delivered, List.length_append, List.length_singleton] at beyond
    omega

end Received

theorem uplink_ledger_step (events : List (RouterEvent Addr)) (router next : Router Addr) (event : RouterEvent Addr)
    (ran : Machine.run step create events = some router) (stepped : router.step event = some next)
    (coherent : router.manager.Coherent) (ledger : UplinkLedger events router) : UplinkLedger (events ++ [event]) next := by
  rcases step_manager router next event stepped with
    ⟨error, peer, data, raw, rfl, same⟩ | ⟨session, index, completion, raw, packet, rfl, completed⟩ | ⟨index, error, rfl, same⟩
  · rw [SessionManager.handleReceive] at same
    by_cases dispatched : error = false ∨ data.length > 0
    · rw [if_pos dispatched] at same
      rcases SessionManager.deliver_cases router.manager raw peer.udpTuple data coherent.own with
        ⟨session, object, mapped, present, owned, delivered⟩ | ⟨_, delivered⟩
      · exact uplink_ledger_taken events router next _ _ data session ran stepped ledger
          (taken_reused events router next error peer data raw session object coherent ledger dispatched mapped present owned
            (same.trans delivered))
      · exact uplink_ledger_taken events router next _ _ data _ ran stepped ledger
          (taken_created events router next error peer data raw ledger dispatched (same.trans delivered))
    · rw [if_neg dispatched] at same
      apply uplink_ledger_unchanged events router next _ ran stepped ledger
      · intro tuple
        simp only [arrival, dispatched, false_and, if_false]
      · intro session
        simp only [accepts, dispatched, false_and, if_false]
      · exact fun _ => rfl
      · rw [same, SessionManager.remove_session_sessions]
  · exact uplink_ledger_completed events router next session index completion raw packet ran stepped ledger coherent completed
  · exact uplink_ledger_unchanged events router next _ ran stepped ledger (fun _ => rfl) (fun _ => rfl) (fun _ => rfl)
      (by rw [same])

theorem coherent_run (events : List (RouterEvent Addr)) (router : Router Addr)
    (ran : Machine.run step create events = some router) : router.manager.Coherent :=
  Machine.run_invariant (fun state => state.manager.Coherent)
    (fun state event next coherent stepped => coherent_step state next event coherent stepped) create router events
    SessionManager.coherent_create ran

theorem uplink_ledger_run (events : List (RouterEvent Addr)) (router : Router Addr)
    (ran : Machine.run step create events = some router) : UplinkLedger events router :=
  Machine.run_history UplinkLedger create uplink_ledger_create
    (fun before state event next beforeRan ledger stepped =>
      uplink_ledger_step before state next event beforeRan stepped (coherent_run before state beforeRan) ledger)
    events router ran

def reconnectingPeer : List (RouterEvent Ipv4) :=
  let peer : Endpoint Ipv4 := ⟨.ofOctets 1 2 3 4, 5⟩
  let other : Endpoint Ipv4 := ⟨.ofOctets 10 0 0 7, 5⟩
  let server : Endpoint Ipv4 := ⟨.ofOctets 127 0 0 1, 3500⟩
  [.received false peer [1] CharArray.zeroed, .received false other [2] CharArray.zeroed,
    .completed 0 0 (.resolved (.found server [])) CharArray.zeroed, .completed 0 0 (.connected false) CharArray.zeroed,
    .received false peer [3] CharArray.zeroed, .completed 0 0 (.written false) CharArray.zeroed,
    .received true peer [] CharArray.zeroed, .received false peer [4] CharArray.zeroed]

end Router

end Rart
