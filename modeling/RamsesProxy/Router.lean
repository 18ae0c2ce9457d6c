import RamsesProxy.SessionManager

set_option autoImplicit false

namespace Rart

abbrev networkBufferSize : Nat := 1024

-- The whole process: one io_service thread runs one handler after the other.
structure Router (Addr : Type) [AsioAddress Addr] where
  manager : SessionManager Addr
  relay : UdpRelay Addr

inductive RouterEvent (Addr : Type) where
  | received (error : Bool) (peer : Endpoint Addr) (data : Bytes) (raw : CharArray payloadCapacity)
  | completed (session index : Nat) (completion : Completion Addr) (raw : CharArray payloadCapacity)
  | sent (index : Nat) (error : Bool)

section Receive

variable {Addr : Type} [AsioAddress Addr]

def SessionManager.handleReceive (error : Bool) (peer : Endpoint Addr) (data : Bytes) (raw : CharArray payloadCapacity)
    (manager : SessionManager Addr) : SessionManager Addr :=
  if error = false ∨ data.length > 0 then manager.deliverFromUdpPeer raw peer.udpTuple data
  else manager.removeSession peer.udpTuple

end Receive

namespace Router

variable {Addr : Type} [AsioAddress Addr]

def create : Router Addr := ⟨.create, .create⟩

def step (router : Router Addr) : RouterEvent Addr → Option (Router Addr)
  | .received error peer data raw =>
      if data.length ≤ networkBufferSize ∧ (error = false ∨ data.length > 0 → frameFits peer.udpTuple data = true) then
        some { router with manager := router.manager.handleReceive error peer data raw }
      else none
  | .completed session index completion raw =>
      match router.manager.complete session index completion with
      | none => none
      | some (manager, packet) => (router.relay.handOver raw packet).toOption.map fun relay => ⟨manager, relay⟩
  | .sent index error => (router.relay.step (.sent index error)).map fun relay => { router with relay := relay }

theorem completed_manager (router next : Router Addr) (session index : Nat) (completion : Completion Addr)
    (raw : CharArray payloadCapacity) (stepped : router.step (.completed session index completion raw) = some next) :
    ∃ packet, router.manager.complete session index completion = some (next.manager, packet) := by
  simp only [step] at stepped
  split at stepped
  · cases stepped
  · rename_i manager packet completed
    obtain ⟨relay, _, rfl⟩ := Option.map_eq_some_iff.mp stepped
    exact ⟨packet, completed⟩

theorem step_manager (router next : Router Addr) (event : RouterEvent Addr) (stepped : router.step event = some next) :
    (∃ error peer data raw, event = .received error peer data raw ∧
      next.manager = router.manager.handleReceive error peer data raw) ∨
    (∃ session index completion raw packet, event = .completed session index completion raw ∧
      router.manager.complete session index completion = some (next.manager, packet)) ∨
    (∃ index error, event = .sent index error ∧ next.manager = router.manager) := by
  cases event with
  | received error peer data raw =>
      simp only [step, Option.ite_none_right_eq_some, Option.some.injEq] at stepped
      obtain ⟨_, rfl⟩ := stepped
      exact .inl ⟨error, peer, data, raw, rfl, rfl⟩
  | completed session index completion raw =>
      obtain ⟨packet, completed⟩ := completed_manager router next session index completion raw stepped
      exact .inr (.inl ⟨session, index, completion, raw, packet, rfl, completed⟩)
  | sent index error =>
      obtain ⟨relay, _, rfl⟩ := Option.map_eq_some_iff.mp stepped
      exact .inr (.inr ⟨index, error, rfl, rfl⟩)

end Router

section OwnRun

variable {Addr : Type}

def OwnRun (object : RouterSession Addr) : Prop :=
  ∃ run : SessionRun Addr, Machine.Reachable SessionRun.step (.create object.udpTuple) run ∧ run.session = object

theorem own_run_create (tuple : AdrTuple Addr) : OwnRun (.create tuple) :=
  ⟨.create tuple, Machine.reachable_start _, rfl⟩

theorem own_run_add (object : RouterSession Addr) (raw : CharArray payloadCapacity) (packet : RouterPacket)
    (own : OwnRun object) : OwnRun (object.addRouterPacket raw packet) := by
  obtain ⟨run, reached, rfl⟩ := own
  obtain ⟨_, starts, _⟩ := add_router_packet_starts run.session raw packet
  rw [OwnRun, starts.tuple]
  exact ⟨_, Machine.reachable_step _ run _ (.addRouterPacket raw packet) reached rfl, rfl⟩

theorem own_run_complete (object after : RouterSession Addr) (index : Nat) (op : SessionOp Addr)
    (completion : Completion Addr) (packet : Option RouterPacket) (found : object.pending[index]? = some op)
    (handled : (object.finishOp index).handle op completion = some (after, packet)) (tuple : after.udpTuple = object.udpTuple)
    (own : OwnRun object) : OwnRun after := by
  obtain ⟨run, reached, rfl⟩ := own
  rw [OwnRun, tuple]
  refine ⟨run.record op completion after, Machine.reachable_step _ run _ (.complete index completion) reached ?_, rfl⟩
  simp only [SessionRun.step, RouterSession.complete, found, handled]

end OwnRun

namespace SessionManager

variable {Addr : Type} [AsioAddress Addr]

def LatestMapped (manager : SessionManager Addr) : Prop :=
  ∀ (session : Nat) object mapped, manager.sessions[session]? = some object →
    manager.udpSessions.find object.udpTuple = some mapped → session ≤ mapped

structure Coherent (manager : SessionManager Addr) : Prop where
  own : KeysOwn manager
  runs : ∀ (session : Nat) object, manager.sessions[session]? = some object → OwnRun object
  latest : LatestMapped manager

theorem coherent_create : Coherent (create : SessionManager Addr) := by
  refine ⟨keys_own_create, ?_, ?_⟩
  · intro session object present
    simp [create] at present
  · intro session object mapped present
    simp [create] at present

theorem coherent_remove (manager : SessionManager Addr) (tuple : AdrTuple Addr) (coherent : Coherent manager) :
    Coherent (manager.removeSession tuple) := by
  refine ⟨keys_own_remove manager tuple coherent.own, ?_, ?_⟩
  · intro session object present
    rw [remove_session_sessions] at present
    exact coherent.runs session object present
  · intro session object mapped present found
    rw [remove_session_sessions] at present
    rw [remove_session_find] at found
    split at found
    · cases found
    · exact coherent.latest session object mapped present found

theorem coherent_failed (manager : SessionManager Addr) (session : Nat) (coherent : Coherent manager) :
    Coherent (manager.handleConnectionFailed session) := by
  unfold handleConnectionFailed
  split
  · exact coherent
  · exact coherent_remove manager _ coherent

theorem coherent_set (manager : SessionManager Addr) (session : Nat) (object next : RouterSession Addr)
    (present : manager.sessions[session]? = some object) (tuple : next.udpTuple = object.udpTuple)
    (runs : OwnRun next)
    (coherent : Coherent manager) : Coherent { manager with sessions := manager.sessions.set session next } := by
  refine ⟨keys_own_set manager session object next present tuple coherent.own, ?_, ?_⟩
  · intro other otherObject otherPresent
    rcases Sequences.set_cases _ _ _ _ _ _ present otherPresent with ⟨_, rfl⟩ | ⟨_, unchanged⟩
    · exact runs
    · exact coherent.runs other otherObject unchanged
  · intro other otherObject mapped otherPresent found
    rcases Sequences.set_cases _ _ _ _ _ _ present otherPresent with ⟨rfl, rfl⟩ | ⟨_, unchanged⟩
    · exact coherent.latest other object mapped present (tuple ▸ found)
    · exact coherent.latest other otherObject mapped unchanged found

theorem coherent_deliver (manager : SessionManager Addr) (raw : CharArray payloadCapacity) (tuple : AdrTuple Addr) (data : Bytes)
    (coherent : Coherent manager) : Coherent (manager.deliverFromUdpPeer raw tuple data) := by
  have own := keys_own_deliver manager raw tuple data coherent.own
  rcases deliver_cases manager raw tuple data coherent.own with ⟨session, object, _, present, _, delivered⟩ | ⟨_, delivered⟩
  · obtain ⟨_, starts, _⟩ := add_router_packet_starts object raw (udpPacket tuple data)
    rw [delivered]
    exact coherent_set manager session object _ present starts.tuple
      (own_run_add object raw _ (coherent.runs session object present)) coherent
  · rw [delivered] at own ⊢
    refine ⟨own, ?_, ?_⟩
    · intro session object present
      rcases Sequences.snoc_cases _ _ _ _ present with old | ⟨_, rfl⟩
      · exact coherent.runs session object old
      · exact own_run_add _ raw _ (own_run_create tuple)
    · intro session object mapped present found
      have bound := (List.getElem?_eq_some_iff.mp present).1
      rw [List.length_append, List.length_singleton] at bound
      rw [OrderedMap.find_assign] at found
      split at found
      · obtain rfl := Option.some.inj found
        omega
      · rename_i apart
        rcases Sequences.snoc_cases _ _ _ _ present with old | ⟨_, rfl⟩
        · exact coherent.latest session object mapped old found
        · obtain ⟨_, starts, _⟩ := add_router_packet_starts (RouterSession.create tuple) raw (udpPacket tuple data)
          exact absurd starts.tuple apart

theorem coherent_complete (manager next : SessionManager Addr) (session index : Nat) (completion : Completion Addr)
    (packet : Option RouterPacket) (coherent : Coherent manager)
    (completed : manager.complete session index completion = some (next, packet)) : Coherent next := by
  obtain ⟨object, op, after, present, found, handled, tuple, outcome⟩ :=
    complete_cases manager next session index completion packet completed
  have runs := own_run_complete object after index op completion packet found handled tuple (coherent.runs session object present)
  have handledCoherent := coherent_set manager session object after present tuple runs coherent
  rcases outcome with ⟨_, rfl⟩ | ⟨_, rfl⟩
  · exact coherent_failed _ session handledCoherent
  · exact handledCoherent

end SessionManager

namespace Router

variable {Addr : Type} [AsioAddress Addr]

theorem coherent_step (router next : Router Addr) (event : RouterEvent Addr) (coherent : router.manager.Coherent)
    (stepped : router.step event = some next) : next.manager.Coherent := by
  rcases step_manager router next event stepped with
    ⟨error, peer, data, raw, _, same⟩ | ⟨session, index, completion, raw, packet, _, completed⟩ | ⟨_, _, _, same⟩
  · rw [same, SessionManager.handleReceive]
    split
    · exact SessionManager.coherent_deliver _ raw _ data coherent
    · exact SessionManager.coherent_remove _ _ coherent
  · exact SessionManager.coherent_complete _ _ session index completion packet coherent completed
  · rw [same]
    exact coherent

theorem relay_reachable (router : Router Addr) (reached : Machine.Reachable step create router) :
    Machine.Reachable UdpRelay.step UdpRelay.create router.relay := by
  refine Machine.reachable_projection Router.relay create ?_ router reached
  intro state event next _ stepped
  cases event with
  | received error peer data raw =>
      simp only [step, Option.ite_none_right_eq_some, Option.some.injEq] at stepped
      obtain ⟨_, rfl⟩ := stepped
      exact .inl rfl
  | completed session index completion raw =>
      simp only [step] at stepped
      split at stepped
      · cases stepped
      · rename_i manager packet _
        obtain ⟨relay, handled, rfl⟩ := Option.map_eq_some_iff.mp stepped
        cases packet with
        | none => exact .inl (Except.ok.inj (UdpRelay.to_option_some _ _ handled)).symm
        | some frame => exact .inr (Machine.reachable_step _ _ _ (.frame raw frame) (Machine.reachable_start _) handled)
  | sent index error =>
      obtain ⟨relay, sent, rfl⟩ := Option.map_eq_some_iff.mp stepped
      exact .inr (Machine.reachable_step _ _ _ (.sent index error) (Machine.reachable_start _) sent)

section Closing

structure ClosesOwn (manager next : SessionManager Addr) (session : Nat) (tuple : AdrTuple Addr) : Prop where
  own : manager.udpSessions.find tuple = some session → next.udpSessions.find tuple = none
  later : ∀ other, manager.udpSessions.find tuple = some other → other ≠ session → next.udpSessions = manager.udpSessions
  rest : ∀ key, key ≠ tuple → next.udpSessions.find key = manager.udpSessions.find key

def RemovesOnlyOwn (router : Router Addr) : RouterEvent Addr → Prop
  | .completed session index .posted raw => ∀ object next, router.manager.sessions[session]? = some object →
      object.pending[index]? = some .close → router.step (.completed session index .posted raw) = some next →
      ClosesOwn router.manager next.manager session object.udpTuple
  | _ => True

def Unsuperseded (router : Router Addr) : RouterEvent Addr → Prop
  | .completed session index .posted _ => ∀ object other, router.manager.sessions[session]? = some object →
      object.pending[index]? = some .close → router.manager.udpSessions.find object.udpTuple = some other → ¬ session < other
  | _ => True

theorem close_step (router : Router Addr) (session index : Nat) (raw : CharArray payloadCapacity) (object : RouterSession Addr)
    (present : router.manager.sessions[session]? = some object) (found : object.pending[index]? = some .close) :
    router.step (.completed session index .posted raw) = some { router with
      manager := ({ router.manager with sessions := router.manager.sessions.set session (object.finishOp index) } :
        SessionManager Addr).removeSession object.udpTuple } := by
  have bound := (List.getElem?_eq_some_iff.mp present).1
  have after : (router.manager.sessions.set session (object.finishOp index))[session]? = some (object.finishOp index) := by
    simp [bound]
  have completed : object.complete index .posted = some (object.finishOp index, none) := by
    simp only [RouterSession.complete, found, RouterSession.handle]
  simp only [step, SessionManager.complete, present, found, completed, SessionOp.isClose, if_true,
    SessionManager.handleConnectionFailed, after, UdpRelay.handOver]
  rfl

theorem removes_only_own_iff (router : Router Addr) (event : RouterEvent Addr) (coherent : router.manager.Coherent) :
    router.RemovesOnlyOwn event ↔ router.Unsuperseded event := by
  cases event with
  | received error peer data raw => exact Iff.rfl
  | sent index error => exact Iff.rfl
  | completed session index completion raw =>
      cases completion with
      | resolved _ | connected _ | written _ | read _ _ => exact Iff.rfl
      | posted =>
          constructor
          · intro removes object other present found mapped later
            have stepped := close_step router session index raw object present found
            have unchanged := (removes object _ present found stepped).later other mapped (by omega)
            have gone := SessionManager.remove_session_find
              { router.manager with sessions := router.manager.sessions.set session (object.finishOp index) }
              object.udpTuple object.udpTuple
            rw [if_pos rfl, unchanged, mapped] at gone
            cases gone
          · intro unsuperseded object next present found stepped
            obtain rfl := Option.some.inj ((close_step router session index raw object present found).symm.trans stepped)
            refine ⟨fun _ => ?_, fun other mapped apart => ?_, fun key apart => ?_⟩
            · rw [SessionManager.remove_session_find, if_pos rfl]
            · have order := coherent.latest session object other present mapped
              exact absurd (by omega) (unsuperseded object other present found mapped)
            · rw [SessionManager.remove_session_find, if_neg apart]

-- In every run each close removes only its own session exactly when none runs for a
-- session that has a successor in the map.
theorem closes_remove_only_own (events : List (RouterEvent Addr)) :
    Machine.Guarded step RemovesOnlyOwn (create : Router Addr) events ↔
      Machine.Guarded step Unsuperseded (create : Router Addr) events := by
  have initial : (create : Router Addr).manager.Coherent := SessionManager.coherent_create
  constructor
  · exact Machine.guarded_mono RemovesOnlyOwn Unsuperseded (fun router => router.manager.Coherent)
      (fun state event next coherent _ stepped => coherent_step state next event coherent stepped)
      (fun state event coherent => (removes_only_own_iff state event coherent).mp) create events initial
  · exact Machine.guarded_mono Unsuperseded RemovesOnlyOwn (fun router => router.manager.Coherent)
      (fun state event next coherent _ stepped => coherent_step state next event coherent stepped)
      (fun state event coherent => (removes_only_own_iff state event coherent).mpr) create events initial

-- The server drops the connection: the read ends, its close runs and the peer comes
-- back with a new session before the write of the old one fails.
def lateWriteFailure : List (RouterEvent Ipv4) :=
  [.received false ⟨.ofOctets 1 2 3 4, 5⟩ [1] CharArray.zeroed,
    .completed 0 0 (.resolved (.found ⟨.ofOctets 127 0 0 1, 3500⟩ [])) CharArray.zeroed, .completed 0 0 (.connected false) CharArray.zeroed,
    .completed 0 1 (.read true []) CharArray.zeroed, .completed 0 1 .posted CharArray.zeroed,
    .received false ⟨.ofOctets 1 2 3 4, 5⟩ [2] CharArray.zeroed, .completed 0 0 (.written true) CharArray.zeroed]

theorem late_close_removes_successor :
    ∃ router : Router Ipv4, Machine.run step create lateWriteFailure = some router ∧
      router.manager.udpSessions.find samplePeer = some 1 ∧ ¬ router.RemovesOnlyOwn (.completed 0 0 .posted CharArray.zeroed) := by
  obtain ⟨router, object, ran, mapped, present, tuple, found⟩ : ∃ (router : Router Ipv4) (object : RouterSession Ipv4),
      Machine.run step create lateWriteFailure = some router ∧ router.manager.udpSessions.find samplePeer = some 1 ∧
      router.manager.sessions[0]? = some object ∧ object.udpTuple = samplePeer ∧ object.pending[0]? = some .close :=
    ⟨_, _, rfl, by decide, rfl, rfl, rfl⟩
  refine ⟨router, ran, mapped, fun removes => ?_⟩
  rw [← tuple] at mapped
  have unchanged := (removes object _ present found (close_step router 0 0 CharArray.zeroed object present found)).later 1
    mapped (by decide)
  have gone := SessionManager.remove_session_find
    { router.manager with sessions := router.manager.sessions.set 0 (object.finishOp 0) } object.udpTuple object.udpTuple
  rw [if_pos rfl, unchanged, mapped] at gone
  cases gone

def CreatesAlone (router : Router Addr) : RouterEvent Addr → Prop
  | .received error peer data _ => (error = false ∨ data.length > 0) →
      router.manager.udpSessions.find peer.udpTuple = none → ∀ (session : Nat) object,
        router.manager.sessions[session]? = some object → object.udpTuple = peer.udpTuple → object.pending = []
  | _ => True

def Unrivalled (manager : SessionManager Addr) : Prop :=
  ∀ (session : Nat) object other, manager.sessions[session]? = some object → object.pending ≠ [] →
    manager.udpSessions.find object.udpTuple = some other → other = session

theorem unrivalled_remove (manager : SessionManager Addr) (tuple : AdrTuple Addr) (unrivalled : Unrivalled manager) :
    Unrivalled (manager.removeSession tuple) := by
  intro session object other present busy mapped
  rw [SessionManager.remove_session_sessions] at present
  rw [SessionManager.remove_session_find] at mapped
  split at mapped
  · cases mapped
  · exact unrivalled session object other present busy mapped

theorem unrivalled_set (manager : SessionManager Addr) (session : Nat) (object next : RouterSession Addr)
    (present : manager.sessions[session]? = some object) (tuple : next.udpTuple = object.udpTuple)
    (alone : ∀ other, manager.udpSessions.find object.udpTuple = some other → other = session)
    (unrivalled : Unrivalled manager) : Unrivalled { manager with sessions := manager.sessions.set session next } := by
  intro place placed other placedPresent busy mapped
  rcases Sequences.set_cases _ _ _ _ _ _ present placedPresent with ⟨rfl, rfl⟩ | ⟨_, unchanged⟩
  · exact alone other (tuple ▸ mapped)
  · exact unrivalled place placed other unchanged busy mapped

theorem unrivalled_receive (manager : SessionManager Addr) (error : Bool) (peer : Endpoint Addr) (data : Bytes)
    (raw : CharArray payloadCapacity) (coherent : manager.Coherent) (unrivalled : Unrivalled manager)
    (alone : (error = false ∨ data.length > 0) → manager.udpSessions.find peer.udpTuple = none → ∀ (session : Nat) object,
      manager.sessions[session]? = some object → object.udpTuple = peer.udpTuple → object.pending = []) :
    Unrivalled (manager.handleReceive error peer data raw) := by
  rw [SessionManager.handleReceive]
  split
  · rename_i dispatched
    rcases SessionManager.deliver_cases manager raw peer.udpTuple data coherent.own with
      ⟨session, object, mapped, present, owned, delivered⟩ | ⟨missing, delivered⟩
    · obtain ⟨_, starts, _⟩ := add_router_packet_starts object raw (udpPacket peer.udpTuple data)
      rw [delivered]
      refine unrivalled_set manager session object _ present starts.tuple (fun other found => ?_) unrivalled
      rw [owned, mapped] at found
      exact (Option.some.inj found).symm
    · rw [delivered]
      intro session object other present busy mapped
      rw [OrderedMap.find_assign] at mapped
      rcases Sequences.snoc_cases _ _ _ _ present with old | ⟨rfl, rfl⟩
      · split at mapped
        · rename_i same
          exact absurd (alone dispatched missing session object old same) busy
        · exact unrivalled session object other old busy mapped
      · obtain ⟨_, starts, _⟩ := add_router_packet_starts (RouterSession.create peer.udpTuple) raw (udpPacket peer.udpTuple data)
        have same : (RouterSession.addRouterPacket raw (udpPacket peer.udpTuple data)
          (RouterSession.create peer.udpTuple)).udpTuple = peer.udpTuple := starts.tuple
        rw [if_pos same] at mapped
        exact (Option.some.inj mapped).symm
  · exact unrivalled_remove manager _ unrivalled

theorem unrivalled_complete (manager next : SessionManager Addr) (session index : Nat) (completion : Completion Addr)
    (packet : Option RouterPacket) (unrivalled : Unrivalled manager)
    (completed : manager.complete session index completion = some (next, packet)) : Unrivalled next := by
  obtain ⟨object, op, after, present, found, _, tuple, outcome⟩ :=
    SessionManager.complete_cases manager next session index completion packet completed
  have busy : object.pending ≠ [] := List.ne_nil_of_mem (List.mem_of_getElem? found)
  have handled := unrivalled_set manager session object after present tuple
    (fun other mapped => unrivalled session object other present busy mapped) unrivalled
  rcases outcome with ⟨_, rfl⟩ | ⟨_, rfl⟩
  · have bound := (List.getElem?_eq_some_iff.mp present).1
    rw [SessionManager.handle_connection_failed_eq _ session after (by simp [bound])]
    exact unrivalled_remove _ _ handled
  · exact handled

theorem created_alone_unsuperseded (events : List (RouterEvent Addr))
    (guarded : Machine.Guarded step CreatesAlone (create : Router Addr) events) :
    Machine.Guarded step Unsuperseded (create : Router Addr) events := by
  refine Machine.guarded_mono CreatesAlone Unsuperseded
    (fun router => router.manager.Coherent ∧ Unrivalled router.manager) ?_ ?_ create events
    ⟨SessionManager.coherent_create, fun session object _ present => by simp [create, SessionManager.create] at present⟩ guarded
  · rintro state event next ⟨coherent, unrivalled⟩ allowed stepped
    refine ⟨coherent_step state next event coherent stepped, ?_⟩
    rcases step_manager state next event stepped with
      ⟨error, peer, data, raw, rfl, same⟩ | ⟨session, index, completion, raw, packet, _, completed⟩ | ⟨_, _, _, same⟩
    · rw [same]
      exact unrivalled_receive state.manager error peer data raw coherent unrivalled allowed
    · exact unrivalled_complete state.manager next.manager session index completion packet unrivalled completed
    · rw [same]
      exact unrivalled
  · rintro state event ⟨_, unrivalled⟩ _
    cases event with
    | received _ _ _ _ | sent _ _ => trivial
    | completed session index completion raw =>
        cases completion with
        | resolved _ | connected _ | written _ | read _ _ => trivial
        | posted =>
            intro object other present found mapped
            have same := unrivalled session object other present (List.ne_nil_of_mem (List.mem_of_getElem? found)) mapped
            omega

end Closing

end Router

end Rart
