import RamsesProxy.Router

set_option autoImplicit false

namespace Rart

namespace SessionManager

variable {Addr : Type} [AsioAddress Addr]

-- The shared_ptrs to a session object: the map's, and the one bound into the handler of
-- each operation it has started. The object and its queue go with the last of them.
def alive (session : Nat) (manager : SessionManager Addr) : Bool :=
  manager.udpSessions.entries.any (fun entry => entry.2 == session) ||
    manager.sessions[session]?.any fun object => !object.pending.isEmpty

theorem alive_iff (manager : SessionManager Addr) (own : KeysOwn manager) (session : Nat) (object : RouterSession Addr)
    (present : manager.sessions[session]? = some object) :
    manager.alive session = true ↔ manager.udpSessions.find object.udpTuple = some session ∨ object.pending ≠ [] := by
  have mapped : manager.udpSessions.entries.any (fun entry => entry.2 == session) = true ↔
      manager.udpSessions.find object.udpTuple = some session := by
    rw [List.any_eq_true]
    constructor
    · intro named
      obtain ⟨entry, member, same⟩ := named
      have found := (OrderedMap.find_some _ _ _).mpr member
      rw [eq_of_beq same] at found
      obtain ⟨owner, ownerPresent, key⟩ := own entry.1 session found
      obtain rfl := Option.some.inj (present.symm.trans ownerPresent)
      rw [key]
      exact found
    · intro found
      exact ⟨_, (OrderedMap.find_some _ _ _).mp found, by simp⟩
  rw [alive, Bool.or_eq_true, mapped, present]
  simp

theorem unborn_not_alive (manager : SessionManager Addr) (own : KeysOwn manager) (session : Nat)
    (absent : manager.sessions[session]? = none) : manager.alive session = false := by
  have unmapped : manager.udpSessions.entries.any (fun entry => entry.2 == session) = false := by
    rw [List.any_eq_false]
    intro entry member same
    obtain ⟨owner, ownerPresent, _⟩ := own entry.1 entry.2 ((OrderedMap.find_some _ _ _).mpr member)
    rw [eq_of_beq same, absent] at ownerPresent
    cases ownerPresent
  rw [alive, unmapped, absent]
  rfl

-- What one step does to the sessions: it goes on with one object that somebody holds, it
-- makes a new one, or it only takes an entry out of the map.
inductive Moved (manager next : SessionManager Addr) : Prop where
  | held (session : Nat) (object after : RouterSession Addr) (present : manager.sessions[session]? = some object)
      (holder : manager.udpSessions.find object.udpTuple = some session ∨ object.pending ≠ [])
      (tuple : after.udpTuple = object.udpTuple) (sessions : next.sessions = manager.sessions.set session after)
      (map : ∀ key other, next.udpSessions.find key = some other → manager.udpSessions.find key = some other)
  | created (object : RouterSession Addr) (sessions : next.sessions = manager.sessions ++ [object])
      (map : next.udpSessions = manager.udpSessions.assign object.udpTuple manager.sessions.length)
  | removed (sessions : next.sessions = manager.sessions)
      (map : ∀ key other, next.udpSessions.find key = some other → manager.udpSessions.find key = some other)

theorem removed_entries (manager : SessionManager Addr) (tuple key : AdrTuple Addr) (other : Nat)
    (found : (manager.removeSession tuple).udpSessions.find key = some other) : manager.udpSessions.find key = some other := by
  rw [remove_session_find] at found
  by_cases same : key = tuple
  · rw [if_pos same] at found
    cases found
  · rwa [if_neg same] at found

theorem moved_deliver (manager : SessionManager Addr) (raw : CharArray payloadCapacity) (tuple : AdrTuple Addr) (data : Bytes)
    (own : KeysOwn manager) : Moved manager (manager.deliverFromUdpPeer raw tuple data) := by
  cases deliver_cases manager raw tuple data own with
  | inl reused =>
      obtain ⟨session, object, mapped, present, owned, delivered⟩ := reused
      obtain ⟨_, starts, _⟩ := add_router_packet_starts object raw (udpPacket tuple data)
      rw [delivered]
      exact .held session object _ present (.inl (owned.symm ▸ mapped)) starts.tuple rfl (fun _ _ found => found)
  | inr fresh =>
      obtain ⟨_, starts, _⟩ := add_router_packet_starts (RouterSession.create tuple) raw (udpPacket tuple data)
      have owned : ((RouterSession.create tuple).addRouterPacket raw (udpPacket tuple data)).udpTuple = tuple := starts.tuple
      refine .created ((RouterSession.create tuple).addRouterPacket raw (udpPacket tuple data)) ?_ ?_
      · rw [fresh.2]
      · rw [fresh.2, owned]

theorem moved_complete (manager next : SessionManager Addr) (session index : Nat) (completion : Completion Addr)
    (packet : Option RouterPacket) (completed : manager.complete session index completion = some (next, packet)) :
    Moved manager next := by
  obtain ⟨object, op, after, present, found, _, tuple, outcome⟩ :=
    complete_cases manager next session index completion packet completed
  have bound := (List.getElem?_eq_some_iff.mp present).1
  have holder : object.pending ≠ [] := List.ne_nil_of_mem (List.mem_of_getElem? found)
  cases outcome with
  | inl closed =>
      rw [closed.2, handle_connection_failed_eq _ session after (by simp [bound])]
      exact .held session object after present (.inr holder) tuple (by rw [remove_session_sessions])
        (fun key other found => removed_entries { manager with sessions := manager.sessions.set session after } _ key other found)
  | inr unclosed =>
      rw [unclosed.2]
      exact .held session object after present (.inr holder) tuple rfl (fun _ _ found => found)

section Moved

variable (manager next : SessionManager Addr)

theorem moved_destroyed (own : KeysOwn manager) (ownNext : KeysOwn next) (moved : Moved manager next) (session : Nat)
    (object : RouterSession Addr) (present : manager.sessions[session]? = some object) (dead : manager.alive session = false) :
    next.sessions[session]? = some object ∧ next.alive session = false := by
  have unheld : ¬ (manager.udpSessions.find object.udpTuple = some session ∨ object.pending ≠ []) := by
    rw [← alive_iff manager own session object present, dead]
    simp
  have kept : next.sessions[session]? = some object ∧ next.udpSessions.find object.udpTuple ≠ some session := by
    cases moved with
    | held other otherObject after otherPresent holder _ sessions map =>
        have apart : other ≠ session := by
          intro same
          subst same
          obtain rfl := Option.some.inj (present.symm.trans otherPresent)
          exact unheld holder
        exact ⟨by rw [sessions, List.getElem?_set_ne apart, present], fun found => unheld (.inl (map _ _ found))⟩
    | created fresh sessions map =>
        have bound := (List.getElem?_eq_some_iff.mp present).1
        refine ⟨by rw [sessions, List.getElem?_append_left bound, present], fun found => ?_⟩
        rw [map, OrderedMap.find_assign] at found
        by_cases same : object.udpTuple = fresh.udpTuple
        · rw [if_pos same] at found
          have last := Option.some.inj found
          omega
        · rw [if_neg same] at found
          exact unheld (.inl found)
    | removed sessions map => exact ⟨by rw [sessions, present], fun found => unheld (.inl (map _ _ found))⟩
  refine ⟨kept.1, ?_⟩
  rw [← Bool.not_eq_true, alive_iff next ownNext session object kept.1]
  intro holder
  cases holder with
  | inl mapped => exact kept.2 mapped
  | inr pending => exact unheld (.inr pending)

theorem moved_born (ownNext : KeysOwn next) (moved : Moved manager next) (session : Nat) (object : RouterSession Addr)
    (absent : manager.sessions[session]? = none) (present : next.sessions[session]? = some object) : next.alive session = true := by
  rw [alive_iff next ownNext session object present]
  cases moved with
  | held other otherObject after otherPresent _ _ sessions _ =>
      rw [sessions] at present
      cases Sequences.set_cases _ _ _ _ _ _ otherPresent present with
      | inl same =>
          rw [same.1, otherPresent] at absent
          cases absent
      | inr apart =>
          rw [apart.2] at absent
          cases absent
  | created fresh sessions map =>
      rw [sessions] at present
      cases Sequences.snoc_cases _ _ _ _ present with
      | inl old =>
          rw [old] at absent
          cases absent
      | inr last =>
          obtain ⟨rfl, rfl⟩ := last
          rw [map, OrderedMap.find_assign, if_pos rfl]
          exact .inl rfl
  | removed sessions _ =>
      rw [sessions, absent] at present
      cases present

theorem moved_map (moved : Moved manager next) (key : AdrTuple Addr) (session : Nat)
    (found : next.udpSessions.find key = some session) :
    manager.udpSessions.find key = some session ∨ session = manager.sessions.length := by
  cases moved with
  | held _ _ _ _ _ _ _ map => exact .inl (map key session found)
  | created fresh _ map =>
      rw [map, OrderedMap.find_assign] at found
      by_cases same : key = fresh.udpTuple
      · rw [if_pos same] at found
        exact .inr (Option.some.inj found).symm
      · rw [if_neg same] at found
        exact .inl found
  | removed _ map => exact .inl (map key session found)

theorem moved_grown (moved : Moved manager next) : manager.sessions.length ≤ next.sessions.length := by
  cases moved with
  | held _ _ _ _ _ _ sessions _ => rw [sessions, List.length_set]
  | created _ sessions _ =>
      rw [sessions, List.length_append]
      exact Nat.le_add_right _ _
  | removed sessions _ => rw [sessions]

end Moved

end SessionManager

namespace Router

variable {Addr : Type} [AsioAddress Addr]

theorem step_moved (router next : Router Addr) (event : RouterEvent Addr) (coherent : router.manager.Coherent)
    (stepped : router.step event = some next) : router.manager.Moved next.manager := by
  rcases step_manager router next event stepped with
    ⟨error, peer, data, raw, _, same⟩ | ⟨session, index, completion, raw, packet, _, completed⟩ | ⟨_, _, _, same⟩
  · rw [same, SessionManager.handleReceive]
    by_cases dispatched : error = false ∨ data.length > 0
    · rw [if_pos dispatched]
      exact SessionManager.moved_deliver router.manager raw _ data coherent.own
    · rw [if_neg dispatched]
      exact .removed (SessionManager.remove_session_sessions _ _) (SessionManager.removed_entries router.manager _)
  · exact SessionManager.moved_complete router.manager next.manager session index completion packet completed
  · rw [same]
    exact .removed rfl (fun _ _ found => found)

def queueAt (router : Router Addr) (session : Nat) : List RouterPacket :=
  if router.manager.alive session = true then
    (router.manager.sessions[session]?.map RouterSession.udpPacketQueue).getD []
  else []

end Router

end Rart
