import RamsesProxy.RouterReads

set_option autoImplicit false

namespace Rart

section Connecting

variable {Addr : Type}

theorem connect_reads (session next : RouterSession Addr) (op : SessionOp Addr) (completion : Completion Addr)
    (packet : Option RouterPacket) (chained : op.isChain = true) (handled : session.handle op completion = some (next, packet)) :
    readsOf next.pending = readsOf session.pending ∨
      ∃ target iterator, op = .connect target iterator ∧ completion = .connected false := by
  cases RouterSession.handled_of_handle handled with
  | resolve result =>
      obtain ⟨fresh, starts, _, unread⟩ := handle_resolve_starts session result
      rw [starts.pending, reads_of_append, unread]
      exact .inl rfl
  | connect target iterator error =>
      cases error with
      | false => exact .inr ⟨target, iterator, rfl, rfl⟩
      | true =>
          refine .inl ?_
          cases iterator <;>
            simp [RouterSession.handleConnection, RouterSession.asyncConnect, RouterSession.closeSession, SessionOp.readSize]
  | write _ _ => cases chained
  | readHeader _ _ _ => cases chained
  | readPayload _ _ _ _ => cases chained
  | close => cases chained

theorem connected_reads (session : RouterSession Addr) (iterator : List (Endpoint Addr)) (isOpen : session.socketOpen = true) :
    readsOf (session.handleConnection false iterator).pending = readsOf session.pending + 1 := by
  obtain ⟨fresh, starts, unread, _⟩ := deliver_to_tcp_peer_starts { session with established := true }
  unfold RouterSession.handleConnection
  rw [if_pos ⟨rfl, isOpen⟩, RouterSession.startReadFromTcp, RouterSession.start_op_pending, reads_of_append, starts.pending,
    reads_of_append, unread]
  rfl

end Connecting

namespace Router

section Readers

variable {Addr : Type} [AsioAddress Addr]

def Live (session : RouterSession Addr) : Prop := session.established = true ∧ 0 < readsOf session.pending

def OnlyMappedRead (manager : SessionManager Addr) : Prop :=
  ∀ (session : Nat) object, manager.sessions[session]? = some object →
    manager.udpSessions.find object.udpTuple ≠ some session → readsOf object.pending = 0

structure OneConnection (manager : SessionManager Addr) : Prop where
  single : ∀ (left right : Nat) leftObject rightObject, manager.sessions[left]? = some leftObject →
    manager.sessions[right]? = some rightObject → leftObject.udpTuple = rightObject.udpTuple →
    Live leftObject → Live rightObject → left = right
  removed : OnlyMappedRead manager

-- The step takes no session out of the map that has a read under way, and connects
-- none that is already out of it.
def LeavesNoReader (router : Router Addr) : RouterEvent Addr → Prop
  | .received error peer data _ => error = true → data = [] → ∀ session object,
      router.manager.udpSessions.find peer.udpTuple = some session → router.manager.sessions[session]? = some object →
      readsOf object.pending = 0
  | .completed session index .posted _ => ∀ object other otherObject, router.manager.sessions[session]? = some object →
      object.pending[index]? = some .close → router.manager.udpSessions.find object.udpTuple = some other →
      router.manager.sessions[other]? = some otherObject → readsOf otherObject.pending = 0
  | .completed session _ (.connected false) _ => ∀ object, router.manager.sessions[session]? = some object →
      router.manager.udpSessions.find object.udpTuple = some session
  | _ => True

theorem one_connection (manager : SessionManager Addr) (only : OnlyMappedRead manager) : OneConnection manager where
  single left right leftObject rightObject leftPresent rightPresent same leftLive rightLive := by
    have mapped : ∀ (session : Nat) object, manager.sessions[session]? = some object → Live object →
        manager.udpSessions.find object.udpTuple = some session := by
      intro session object present live
      by_contra unmapped
      have idle := only session object present unmapped
      have reading := live.2
      omega
    have leftMapped := mapped left leftObject leftPresent leftLive
    have rightMapped := mapped right rightObject rightPresent rightLive
    rw [same, rightMapped] at leftMapped
    exact (Option.some.inj leftMapped).symm
  removed := only

theorem only_mapped_remove (manager : SessionManager Addr) (tuple : AdrTuple Addr) (only : OnlyMappedRead manager)
    (idle : ∀ (session : Nat) object, manager.udpSessions.find tuple = some session →
      manager.sessions[session]? = some object → readsOf object.pending = 0) :
    OnlyMappedRead (manager.removeSession tuple) := by
  intro session object present unmapped
  rw [SessionManager.remove_session_sessions] at present
  by_cases mapped : manager.udpSessions.find object.udpTuple = some session
  · rw [SessionManager.remove_session_find] at unmapped
    by_cases same : object.udpTuple = tuple
    · exact idle session object (same ▸ mapped) present
    · rw [if_neg same] at unmapped
      exact absurd mapped unmapped
  · exact only session object present mapped

theorem only_mapped_set (manager : SessionManager Addr) (session : Nat) (object next : RouterSession Addr)
    (present : manager.sessions[session]? = some object) (tuple : next.udpTuple = object.udpTuple)
    (idle : manager.udpSessions.find object.udpTuple ≠ some session → readsOf next.pending = 0)
    (only : OnlyMappedRead manager) : OnlyMappedRead { manager with sessions := manager.sessions.set session next } := by
  intro other otherObject otherPresent unmapped
  rcases Sequences.set_cases _ _ _ _ _ _ present otherPresent with ⟨rfl, rfl⟩ | ⟨_, unchanged⟩
  · exact idle (tuple ▸ unmapped)
  · exact only other otherObject unchanged unmapped

theorem only_mapped_deliver (manager : SessionManager Addr) (raw : CharArray payloadCapacity) (tuple : AdrTuple Addr) (data : Bytes)
    (own : manager.KeysOwn) (only : OnlyMappedRead manager) : OnlyMappedRead (manager.deliverFromUdpPeer raw tuple data) := by
  rcases SessionManager.deliver_cases manager raw tuple data own with
    ⟨session, object, _, present, _, delivered⟩ | ⟨missing, delivered⟩
  · obtain ⟨fresh, starts, unread, _⟩ := add_router_packet_starts object raw (udpPacket tuple data)
    rw [delivered]
    refine only_mapped_set manager session object _ present starts.tuple (fun unmapped => ?_) only
    rw [starts.pending, reads_of_append, unread, only session object present unmapped]
  · obtain ⟨_, starts, _⟩ := add_router_packet_starts (RouterSession.create tuple) raw (udpPacket tuple data)
    rw [delivered]
    intro session object present unmapped
    rw [OrderedMap.find_assign] at unmapped
    rcases Sequences.snoc_cases _ _ _ _ present with old | ⟨rfl, rfl⟩
    · by_cases same : object.udpTuple = tuple
      · exact only session object old (by rw [same, missing]; simp)
      · rw [if_neg same] at unmapped
        exact only session object old unmapped
    · exact absurd (if_pos starts.tuple) unmapped

theorem only_mapped_complete (manager next : SessionManager Addr) (session index : Nat) (completion : Completion Addr)
    (packet : Option RouterPacket) (only : OnlyMappedRead manager)
    (closes : ∀ object other otherObject, manager.sessions[session]? = some object → object.pending[index]? = some .close →
      manager.udpSessions.find object.udpTuple = some other → manager.sessions[other]? = some otherObject →
      readsOf otherObject.pending = 0)
    (connects : completion = .connected false → ∀ object, manager.sessions[session]? = some object →
      manager.udpSessions.find object.udpTuple = some session)
    (completed : manager.complete session index completion = some (next, packet)) : OnlyMappedRead next := by
  obtain ⟨object, op, after, present, found, handled, tuple, outcome⟩ :=
    SessionManager.complete_cases manager next session index completion packet completed
  have finished := finished_reads object index op found
  have handledOnly : OnlyMappedRead { manager with sessions := manager.sessions.set session after } := by
    refine only_mapped_set manager session object after present tuple (fun unmapped => ?_) only
    have idle := only session object present unmapped
    obtain ⟨fresh, effect⟩ := handle_effect _ after op completion packet handled
    cases chain : op.isChain with
    | true =>
        rcases connect_reads _ after op completion packet chain handled with same | ⟨_, _, _, connected⟩
        · omega
        · exact absurd (connects connected object present) unmapped
    | false =>
        cases size : op.readSize with
        | none =>
            have unread := effect.unread chain size
            rw [effect.starts.pending, reads_of_append, unread]
            omega
        | some amount =>
            simp only [size, Option.isSome_some, if_true] at finished
            omega
  have bound := (List.getElem?_eq_some_iff.mp present).1
  rcases outcome with ⟨closing, rfl⟩ | ⟨_, rfl⟩
  · obtain ⟨rfl, rfl⟩ : op = .close ∧ after = object.finishOp index := by
      cases RouterSession.handled_of_handle handled with
      | close => exact ⟨rfl, rfl⟩
      | resolve _ | connect _ _ _ | write _ _ | readHeader _ _ _ | readPayload _ _ _ _ => cases closing
    rw [SessionManager.handle_connection_failed_eq _ session (object.finishOp index) (by simp [bound])]
    refine only_mapped_remove _ _ handledOnly (fun other otherObject mapped otherPresent => ?_)
    rcases Sequences.set_cases _ _ _ _ _ _ present otherPresent with ⟨rfl, rfl⟩ | ⟨_, unchanged⟩
    · have idle := closes object other object present found mapped present
      omega
    · exact closes object other otherObject present found mapped unchanged
  · exact handledOnly

theorem only_mapped_step (router next : Router Addr) (event : RouterEvent Addr) (coherent : router.manager.Coherent)
    (only : OnlyMappedRead router.manager) (allowed : router.LeavesNoReader event) (stepped : router.step event = some next) :
    OnlyMappedRead next.manager := by
  rcases step_manager router next event stepped with
    ⟨error, peer, data, raw, rfl, same⟩ | ⟨session, index, completion, raw, packet, rfl, completed⟩ | ⟨_, _, _, same⟩
  · rw [same, SessionManager.handleReceive]
    split
    · exact only_mapped_deliver router.manager raw peer.udpTuple data coherent.own only
    · rename_i failed
      have error : error = true := by simpa using fun clean => failed (.inl clean)
      have empty : data = [] := by
        by_contra some
        exact failed (.inr (List.length_pos_iff.mpr some))
      exact only_mapped_remove router.manager peer.udpTuple only (allowed error empty)
  · apply only_mapped_complete router.manager next.manager session index completion packet only ?_ ?_ completed
    · intro object other otherObject present found
      obtain ⟨otherSession, op, after, otherPresent, otherFound, handled, _⟩ :=
        SessionManager.complete_cases router.manager next.manager session index completion packet completed
      obtain rfl := Option.some.inj (present.symm.trans otherPresent)
      obtain rfl := Option.some.inj (found.symm.trans otherFound)
      cases RouterSession.handled_of_handle handled with
      | close => exact allowed object other otherObject present found
    · rintro rfl object present
      exact allowed object present
  · rw [same]
    exact only

theorem removed_reader (manager : SessionManager Addr) (tuple : AdrTuple Addr) (session : Nat) (object : RouterSession Addr)
    (own : manager.KeysOwn) (mapped : manager.udpSessions.find tuple = some session)
    (present : manager.sessions[session]? = some object) (reading : readsOf object.pending ≠ 0) :
    ¬ OnlyMappedRead (manager.removeSession tuple) := by
  intro only
  obtain ⟨mappedObject, mappedPresent, owned⟩ := own tuple session mapped
  obtain rfl := Option.some.inj (present.symm.trans mappedPresent)
  apply reading
  apply only session object
  · rw [SessionManager.remove_session_sessions]
    exact present
  · rw [SessionManager.remove_session_find, if_pos owned]
    simp

theorem closed_reader (router next : Router Addr) (session index : Nat) (raw : CharArray payloadCapacity)
    (coherent : router.manager.Coherent) (refused : ¬ router.LeavesNoReader (.completed session index .posted raw))
    (stepped : router.step (.completed session index .posted raw) = some next) : ¬ OnlyMappedRead next.manager := by
  simp only [LeavesNoReader, Classical.not_forall] at refused
  obtain ⟨object, other, otherObject, present, found, mapped, otherPresent, reading⟩ := refused
  obtain rfl := Option.some.inj ((close_step router session index raw object present found).symm.trans stepped)
  have own := SessionManager.keys_own_set router.manager session object (object.finishOp index) present rfl coherent.own
  by_cases same : session = other
  · subst same
    obtain rfl := Option.some.inj (present.symm.trans otherPresent)
    have bound := (List.getElem?_eq_some_iff.mp present).1
    have finished := finished_reads object index .close found
    simp only [SessionOp.readSize, Option.isSome_none, Bool.false_eq_true, if_false] at finished
    exact removed_reader _ object.udpTuple session (object.finishOp index) own mapped (by simp [bound]) (by omega)
  · exact removed_reader _ object.udpTuple other otherObject own mapped
      (by simpa [List.getElem?_set_ne same] using otherPresent) reading

theorem detached_reader (router next : Router Addr) (session index : Nat) (raw : CharArray payloadCapacity)
    (coherent : router.manager.Coherent) (refused : ¬ router.LeavesNoReader (.completed session index (.connected false) raw))
    (stepped : router.step (.completed session index (.connected false) raw) = some next) : ¬ OnlyMappedRead next.manager := by
  simp only [LeavesNoReader, Classical.not_forall] at refused
  obtain ⟨object, present, unmapped⟩ := refused
  obtain ⟨packet, completed⟩ := completed_manager router next session index (.connected false) raw stepped
  obtain ⟨other, op, after, otherPresent, found, handled, tuple, outcome⟩ :=
    SessionManager.complete_cases router.manager next.manager session index (.connected false) packet completed
  obtain rfl := Option.some.inj (present.symm.trans otherPresent)
  obtain ⟨run, reached, rfl⟩ := coherent.runs session object present
  cases op with
  | resolve | write _ | readHeader | readPayload _ | close => cases handled
  | connect target iterator =>
      cases handled
      have isOpen := connecting_open _ run reached index target iterator found
      have reads := connected_reads (run.session.finishOp index) iterator isOpen
      rcases outcome with ⟨closing, _⟩ | ⟨_, handledManager⟩
      · cases closing
      · rw [handledManager]
        intro only
        have bound := (List.getElem?_eq_some_iff.mp present).1
        have idle := only session _ (by simp [bound]; rfl) (by rw [tuple]; exact unmapped)
        omega

theorem reader_left (router next : Router Addr) (event : RouterEvent Addr) (coherent : router.manager.Coherent)
    (refused : ¬ router.LeavesNoReader event) (stepped : router.step event = some next) : ¬ OnlyMappedRead next.manager := by
  cases event with
  | received error peer data raw =>
      simp only [LeavesNoReader, Classical.not_forall] at refused
      obtain ⟨rfl, rfl, session, object, mapped, present, reading⟩ := refused
      cases stepped
      exact removed_reader router.manager peer.udpTuple session object coherent.own mapped present reading
  | completed session index completion raw =>
      cases completion with
      | posted => exact closed_reader router next session index raw coherent refused stepped
      | connected error =>
          cases error with
          | false => exact detached_reader router next session index raw coherent refused stepped
          | true => exact absurd trivial refused
      | resolved _ | written _ | read _ _ => exact absurd trivial refused
  | sent _ _ => exact absurd trivial refused

theorem one_connection_per_peer (events : List (RouterEvent Addr)) (router : Router Addr)
    (ran : Machine.run step create events = some router) :
    Machine.Always step (fun state : Router Addr => OneConnection state.manager) create events ↔
      Machine.Guarded step LeavesNoReader (create : Router Addr) events := by
  refine Machine.always_iff_guarded (fun _ => True) LeavesNoReader
    (fun state => state.manager.Coherent ∧ OnlyMappedRead state.manager) _ (fun _ good => one_connection _ good.2) ?_ ?_
    create router events ⟨SessionManager.coherent_create, ?_⟩ (fun _ _ => trivial) ran
  · rintro state event next _ ⟨coherent, only⟩ allowed stepped
    exact ⟨coherent_step state next event coherent stepped, only_mapped_step state next event coherent only allowed stepped⟩
  · rintro state event next _ ⟨coherent, _⟩ refused stepped one
    exact reader_left state next event coherent refused stepped one.removed
  · intro session object present
    simp [create, SessionManager.create] at present

-- The server hangs up: the read of session 0 ends before its close runs, and the next
-- datagram of the peer makes a new session.
def hangUp : List (RouterEvent Ipv4) :=
  [.received false ⟨.ofOctets 1 2 3 4, 5⟩ [1] CharArray.zeroed,
    .completed 0 0 (.resolved (.found ⟨.ofOctets 127 0 0 1, 3500⟩ [])) CharArray.zeroed, .completed 0 0 (.connected false) CharArray.zeroed,
    .completed 0 1 (.read true []) CharArray.zeroed, .completed 0 1 .posted CharArray.zeroed,
    .received false ⟨.ofOctets 1 2 3 4, 5⟩ [2] CharArray.zeroed]

theorem hang_up_guarded : Machine.Guarded step LeavesNoReader (create : Router Ipv4) hangUp := by
  refine ⟨fun error => (by cases error), fun first firstStep => ⟨trivial, fun second secondStep => ⟨?_, fun third thirdStep =>
    ⟨trivial, fun fourth fourthStep => ⟨?_, fun fifth fifthStep => ⟨fun error => (by cases error), fun _ _ => trivial⟩⟩⟩⟩⟩⟩
  · cases firstStep
    cases secondStep
    intro object present
    cases present
    decide
  · cases firstStep
    cases secondStep
    cases thirdStep
    cases fourthStep
    intro object other otherObject present found mapped otherPresent
    cases present
    cases mapped
    cases otherPresent
    rfl

theorem one_connection_per_peer_hang_up :
    ∃ router : Router Ipv4, Machine.run step create hangUp = some router ∧ router.manager.sessions.length = 2 ∧
      Machine.Always step (fun state : Router Ipv4 => OneConnection state.manager) create hangUp := by
  obtain ⟨router, ran, created⟩ : ∃ router : Router Ipv4, Machine.run step create hangUp = some router ∧
      router.manager.sessions.length = 2 := ⟨_, rfl, rfl⟩
  exact ⟨router, ran, created, (one_connection_per_peer hangUp router ran).mpr hang_up_guarded⟩

-- An error on the UDP socket takes session 0 out of the map, and nothing closes its
-- connection.
def receiveError : List (RouterEvent Ipv4) :=
  [.received false ⟨.ofOctets 1 2 3 4, 5⟩ [1] CharArray.zeroed,
    .completed 0 0 (.resolved (.found ⟨.ofOctets 127 0 0 1, 3500⟩ [])) CharArray.zeroed, .completed 0 0 (.connected false) CharArray.zeroed,
    .received true ⟨.ofOctets 1 2 3 4, 5⟩ [] CharArray.zeroed, .received false ⟨.ofOctets 1 2 3 4, 5⟩ [2] CharArray.zeroed,
    .completed 1 0 (.resolved (.found ⟨.ofOctets 127 0 0 1, 3500⟩ [])) CharArray.zeroed, .completed 1 0 (.connected false) CharArray.zeroed]

theorem two_connections_of_one_peer :
    ∃ router : Router Ipv4, Machine.run step create receiveError = some router ∧ ¬ OneConnection router.manager := by
  obtain ⟨router, ran, views⟩ : ∃ router : Router Ipv4, Machine.run step create receiveError = some router ∧
      router.manager.sessions.map (fun object => (object.udpTuple, object.established, readsOf object.pending)) =
        [(samplePeer, true, 1), (samplePeer, true, 1)] := ⟨_, rfl, by decide⟩
  refine ⟨router, ran, fun one => ?_⟩
  obtain ⟨left, rest, both, leftView, restView⟩ := List.map_eq_cons_iff.mp views
  obtain ⟨right, tail, rfl, rightView, _⟩ := List.map_eq_cons_iff.mp restView
  simp only [Prod.mk.injEq] at leftView rightView
  have impossible := one.single 0 1 left right (by simp [both]) (by simp [both]) (leftView.1.trans rightView.1.symm)
    ⟨leftView.2.1, by omega⟩ ⟨rightView.2.1, by omega⟩
  cases impossible

end Readers

end Router

end Rart
