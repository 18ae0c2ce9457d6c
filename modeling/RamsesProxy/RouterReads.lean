import RamsesProxy.Router

set_option autoImplicit false

namespace Rart

section Alive

variable {Addr : Type}

def Alive (session : RouterSession Addr) : Prop := readsOf session.pending = 1 ∨ SessionOp.close ∈ session.pending

theorem close_kept (session : RouterSession Addr) (index : Nat) (op : SessionOp Addr)
    (found : session.pending[index]? = some op) (other : op.isClose = false) (closing : SessionOp.close ∈ session.pending) :
    SessionOp.close ∈ (session.finishOp index).pending := by
  obtain ⟨left, right, whole, rest⟩ := Sequences.erase_split session.pending index op found
  rw [whole, List.mem_append, List.mem_cons] at closing
  rw [RouterSession.finish_op_pending, rest, List.mem_append]
  rcases closing with before | rfl | after
  · exact .inl before
  · cases other
  · exact .inr after

theorem alive_handled (session next : RouterSession Addr) (index : Nat) (op : SessionOp Addr) (completion : Completion Addr)
    (fresh : List (SessionOp Addr)) (once : ReadsOnce session) (found : session.pending[index]? = some op)
    (other : op.isClose = false) (unconnected : op.isChain = true → session.established = false)
    (effect : Effect op completion (session.finishOp index) next fresh) (alive : session.established = true → Alive session)
    (closing : Undecoded (session.finishOp index) op completion → SessionOp.close ∈ session.pending)
    (established : next.established = true) : Alive next := by
  have finished := finished_reads session index op found
  have pending : readsOf next.pending = readsOf (session.finishOp index).pending + readsOf fresh := by
    rw [effect.starts.pending, reads_of_append]
  have keeps : SessionOp.close ∈ session.pending → Alive next := by
    intro member
    refine .inr ?_
    rw [effect.starts.pending]
    exact List.mem_append_left _ (close_kept session index op found other member)
  cases chain : op.isChain with
  | true =>
      have none := once.connected (unconnected chain)
      rcases effect.connects chain with ⟨same, _⟩ | ⟨_, one⟩
      · rw [same, RouterSession.finish_op_established, unconnected chain] at established
        cases established
      · exact .inl (by omega)
  | false =>
      have before : session.established = true := (effect.keeps chain).symm.trans established
      cases size : op.readSize with
      | none =>
          have unread := effect.unread chain size
          simp only [size, Option.isSome_none, Bool.false_eq_true, if_false] at finished
          rcases alive before with one | member
          · exact .inl (by omega)
          · exact keeps member
      | some amount =>
          have atMostOne := once.atMostOne
          simp only [size, Option.isSome_some, if_true] at finished
          rcases effect.readsOn (by simp [size]) with one | ⟨_, member⟩ | ⟨_, undecoded⟩
          · exact .inl (by omega)
          · refine .inr ?_
            rw [effect.starts.pending]
            exact List.mem_append_right _ member
          · exact keeps (closing undecoded)

theorem alive_add (session : RouterSession Addr) (raw : CharArray payloadCapacity) (packet : RouterPacket)
    (alive : session.established = true → Alive session)
    (established : (session.addRouterPacket raw packet).established = true) : Alive (session.addRouterPacket raw packet) := by
  obtain ⟨fresh, starts, unread, same, _⟩ := add_router_packet_starts session raw packet
  rw [same] at established
  rcases alive established with one | member
  · refine .inl ?_
    rw [starts.pending, reads_of_append, unread, one]
  · refine .inr ?_
    rw [starts.pending]
    exact List.mem_append_left _ member

end Alive

namespace Router

variable {Addr : Type} [AsioAddress Addr]

def NoHalfDead (manager : SessionManager Addr) : Prop :=
  ∀ tuple session object, manager.udpSessions.find tuple = some session → manager.sessions[session]? = some object →
    object.established = true → Alive object

-- A payload read by a session that is in the map and has no close posted has a peer
-- length that decode_peer accepts.
def PeersDecode (router : Router Addr) : RouterEvent Addr → Prop
  | .completed session index completion _ => ∀ object op, router.manager.sessions[session]? = some object →
      object.pending[index]? = some op → router.manager.udpSessions.find object.udpTuple = some session →
      SessionOp.close ∉ object.pending → ¬ Undecoded (object.finishOp index) op completion
  | _ => True

theorem no_half_dead_remove (manager : SessionManager Addr) (tuple : AdrTuple Addr) (none : NoHalfDead manager) :
    NoHalfDead (manager.removeSession tuple) := by
  intro key session object mapped present
  rw [SessionManager.remove_session_find] at mapped
  rw [SessionManager.remove_session_sessions] at present
  split at mapped
  · cases mapped
  · exact none key session object mapped present

theorem no_half_dead_set (manager : SessionManager Addr) (session : Nat) (object next : RouterSession Addr)
    (present : manager.sessions[session]? = some object)
    (alive : ∀ tuple, manager.udpSessions.find tuple = some session → next.established = true → Alive next)
    (none : NoHalfDead manager) : NoHalfDead { manager with sessions := manager.sessions.set session next } := by
  intro tuple other otherObject mapped otherPresent
  rcases Sequences.set_cases _ _ _ _ _ _ present otherPresent with ⟨rfl, rfl⟩ | ⟨_, unchanged⟩
  · exact alive tuple mapped
  · exact none tuple other otherObject mapped unchanged

theorem no_half_dead_receive (manager : SessionManager Addr) (error : Bool) (peer : Endpoint Addr) (data : Bytes)
    (raw : CharArray payloadCapacity) (coherent : manager.Coherent) (none : NoHalfDead manager) :
    NoHalfDead (manager.handleReceive error peer data raw) := by
  rw [SessionManager.handleReceive]
  split
  · rcases SessionManager.deliver_cases manager raw peer.udpTuple data coherent.own with
      ⟨session, object, mapped, present, _, delivered⟩ | ⟨_, delivered⟩
    · rw [delivered]
      exact no_half_dead_set manager session object _ present
        (fun _ _ => alive_add object raw _ (none peer.udpTuple session object mapped present)) none
    · rw [delivered]
      intro tuple session object mapped present
      rcases Sequences.snoc_cases _ _ _ _ present with old | ⟨_, rfl⟩
      · rw [OrderedMap.find_assign] at mapped
        split at mapped
        · obtain rfl := Option.some.inj mapped
          simp at old
        · exact none tuple session object mapped old
      · exact alive_add _ raw _ (fun established => by cases established)
  · exact no_half_dead_remove manager _ none

theorem no_half_dead_complete (manager next : SessionManager Addr) (session index : Nat) (completion : Completion Addr)
    (packet : Option RouterPacket) (coherent : manager.Coherent) (none : NoHalfDead manager)
    (decodes : ∀ object op, manager.sessions[session]? = some object → object.pending[index]? = some op →
      manager.udpSessions.find object.udpTuple = some session → SessionOp.close ∉ object.pending →
      ¬ Undecoded (object.finishOp index) op completion)
    (completed : manager.complete session index completion = some (next, packet)) : NoHalfDead next := by
  obtain ⟨object, op, after, present, found, handled, tuple, outcome⟩ :=
    SessionManager.complete_cases manager next session index completion packet completed
  have bound := (List.getElem?_eq_some_iff.mp present).1
  rcases outcome with ⟨_, rfl⟩ | ⟨other, rfl⟩
  · -- The close takes the session out of the map, so only the others are left to look at.
    rw [SessionManager.handle_connection_failed_eq _ session after (by simp [bound])]
    intro key place placed mapped placedPresent
    rw [SessionManager.remove_session_find] at mapped
    rw [SessionManager.remove_session_sessions] at placedPresent
    split at mapped
    · cases mapped
    · rename_i apart
      rcases Sequences.set_cases _ _ _ _ _ _ present placedPresent with ⟨rfl, _⟩ | ⟨_, unchanged⟩
      · obtain ⟨mappedObject, mappedPresent, owned⟩ := coherent.own key place mapped
        obtain rfl := Option.some.inj (present.symm.trans mappedPresent)
        exact absurd (owned.symm.trans tuple.symm) apart
      · exact none key place placed mapped unchanged
  · obtain ⟨run, reached, rfl⟩ := coherent.runs session object present
    obtain ⟨fresh, effect⟩ := handle_effect _ after op completion packet handled
    refine no_half_dead_set manager session run.session after present (fun key mapped => ?_) none
    obtain ⟨mappedObject, mappedPresent, owned⟩ := coherent.own key session mapped
    obtain rfl := Option.some.inj (present.symm.trans mappedPresent)
    rw [← owned] at mapped
    apply alive_handled run.session after index op completion fresh (reachable_reads_once _ run reached) found other
      (chain_unconnected _ run reached index op found) effect (none _ session _ mapped present)
    intro undecoded
    by_contra unposted
    exact decodes _ op present found mapped unposted undecoded

theorem no_half_dead_step (router next : Router Addr) (event : RouterEvent Addr) (coherent : router.manager.Coherent)
    (none : NoHalfDead router.manager) (decodes : router.PeersDecode event) (stepped : router.step event = some next) :
    NoHalfDead next.manager := by
  rcases step_manager router next event stepped with
    ⟨error, peer, data, raw, _, same⟩ | ⟨session, index, completion, raw, packet, rfl, completed⟩ | ⟨_, _, _, same⟩
  · rw [same]
    exact no_half_dead_receive router.manager error peer data raw coherent none
  · exact no_half_dead_complete router.manager next.manager session index completion packet coherent none decodes completed
  · rw [same]
    exact none

theorem undecoded_half_dead (router next : Router Addr) (event : RouterEvent Addr) (coherent : router.manager.Coherent)
    (refused : ¬ router.PeersDecode event) (stepped : router.step event = some next) : ¬ NoHalfDead next.manager := by
  cases event with
  | received _ _ _ _ | sent _ _ => exact absurd trivial refused
  | completed session index completion raw =>
      simp only [PeersDecode, Classical.not_forall, Classical.not_not] at refused
      obtain ⟨object, op, present, found, mapped, unposted, undecoded⟩ := refused
      obtain ⟨packet, completed⟩ := completed_manager router next session index completion raw stepped
      obtain ⟨other, otherOp, after, otherPresent, otherFound, handled, _, outcome⟩ :=
        SessionManager.complete_cases router.manager next.manager session index completion packet completed
      obtain rfl := Option.some.inj (present.symm.trans otherPresent)
      obtain rfl := Option.some.inj (found.symm.trans otherFound)
      obtain ⟨pending, established⟩ := undecoded_effect _ after op completion packet undecoded handled
      obtain ⟨size, _, rfl, _⟩ := undecoded
      obtain ⟨run, reached, rfl⟩ := coherent.runs session object present
      have once := reachable_reads_once _ run reached
      have finished := finished_reads run.session index _ found
      simp only [SessionOp.readSize, Option.isSome_some, if_true] at finished
      have atMostOne := once.atMostOne
      have connected : run.session.established = true := by
        by_contra unconnected
        have idle := once.connected (by simpa using unconnected)
        omega
      rcases outcome with ⟨closed, _⟩ | ⟨_, handledManager⟩
      · cases closed
      · intro none
        rw [handledManager] at none
        have bound := (List.getElem?_eq_some_iff.mp present).1
        have alive := none run.session.udpTuple session after mapped (by simp [bound]) (established.trans connected)
        rw [Alive, pending] at alive
        rcases alive with one | member
        · omega
        · exact unposted (List.mem_of_mem_eraseIdx member)

theorem sessions_read_or_close (events : List (RouterEvent Addr)) (router : Router Addr)
    (ran : Machine.run step create events = some router) :
    Machine.Always step (fun state : Router Addr => NoHalfDead state.manager) create events ↔
      Machine.Guarded step PeersDecode (create : Router Addr) events := by
  refine Machine.always_iff_guarded (fun _ => True) PeersDecode
    (fun state => state.manager.Coherent ∧ NoHalfDead state.manager) _ (fun _ good => good.2) ?_ ?_
    create router events ⟨SessionManager.coherent_create, ?_⟩ (fun _ _ => trivial) ran
  · rintro state event next _ ⟨coherent, none⟩ decodes stepped
    exact ⟨coherent_step state next event coherent stepped, no_half_dead_step state next event coherent none decodes stepped⟩
  · rintro state event next _ ⟨coherent, _⟩ refused stepped
    exact undecoded_half_dead state next event coherent refused stepped
  · intro tuple session object _ present
    simp [create, SessionManager.create] at present

def connects (header : Bytes) : List (RouterEvent Ipv4) :=
  [.received false ⟨.ofOctets 1 2 3 4, 5⟩ [1] CharArray.zeroed,
    .completed 0 0 (.resolved (.found ⟨.ofOctets 127 0 0 1, 3500⟩ [])) CharArray.zeroed, .completed 0 0 (.connected false) CharArray.zeroed,
    .completed 0 1 (.read false header) CharArray.zeroed]

def repliedFrame : List (RouterEvent Ipv4) :=
  connects (sampleFrame.data.take 4) ++ [.completed 0 1 (.read false (sampleFrame.data.drop 4)) CharArray.zeroed]

theorem replied_frame_guarded : Machine.Guarded step PeersDecode (create : Router Ipv4) repliedFrame := by
  refine ⟨trivial, fun first firstStep => ⟨?_, fun second secondStep => ⟨?_, fun third thirdStep => ⟨?_, fun fourth fourthStep =>
    ⟨?_, fun _ _ => trivial⟩⟩⟩⟩⟩
  · cases firstStep
    rintro object op present found _ _ ⟨_, _, rfl, _⟩
    cases present
    cases found
  · cases firstStep
    cases secondStep
    rintro object op present found _ _ ⟨_, _, rfl, _⟩
    cases present
    cases found
  · cases firstStep
    cases secondStep
    cases thirdStep
    rintro object op present found _ _ ⟨_, _, rfl, _⟩
    cases present
    cases found
  · cases firstStep
    cases secondStep
    cases thirdStep
    cases fourthStep
    rintro object op present found _ _ ⟨_, bytes, _, same, _, refused⟩
    cases present
    cases same
    revert refused
    decide

theorem sessions_read_or_close_replied :
    ∃ router : Router Ipv4, Machine.run step create repliedFrame = some router ∧ router.relay.handed.length = 1 ∧
      Machine.Always step (fun state : Router Ipv4 => NoHalfDead state.manager) create repliedFrame := by
  obtain ⟨router, ran, handed⟩ : ∃ router : Router Ipv4, Machine.run step create repliedFrame = some router ∧
      router.relay.handed.length = 1 := ⟨_, rfl, rfl⟩
  exact ⟨router, ran, handed, (sessions_read_or_close repliedFrame router ran).mpr replied_frame_guarded⟩

-- Twelve bytes are announced, and the peer text alone is said to have 9999.
def oversizedPeer : List (RouterEvent Ipv4) :=
  connects [32, 32, 49, 50] ++
    [.completed 0 1 (.read false [57, 57, 57, 57, 49, 46, 50, 46, 51, 46, 52, 58]) CharArray.zeroed]

theorem oversized_peer_half_dead :
    ∃ router : Router Ipv4, Machine.run step create oversizedPeer = some router ∧ ¬ NoHalfDead router.manager := by
  obtain ⟨router, object, ran, mapped, present, established, reads, closing⟩ : ∃ (router : Router Ipv4)
      (object : RouterSession Ipv4), Machine.run step create oversizedPeer = some router ∧
      router.manager.udpSessions.find samplePeer = some 0 ∧ router.manager.sessions[0]? = some object ∧
      object.established = true ∧ readsOf object.pending = 0 ∧ object.pending.countP SessionOp.isClose = 0 :=
    ⟨_, _, rfl, by decide, rfl, rfl, rfl, rfl⟩
  refine ⟨router, ran, fun none => ?_⟩
  rcases none samplePeer 0 object mapped present established with one | member
  · omega
  · exact absurd rfl (List.countP_eq_zero.mp closing _ member)

end Router

end Rart
