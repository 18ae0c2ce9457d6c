import RamsesProxy.Framing
import RamsesProxy.SessionReads

set_option autoImplicit false

namespace Rart

-- A RouterSessionPtr is the number of the session object it points to. Removing a
-- session from the map leaves the object alone: its pending operations share it.
structure SessionManager (Addr : Type) [LinearOrder Addr] where
  sessions : List (RouterSession Addr)
  udpSessions : OrderedMap (AdrTuple.less : AdrTuple Addr → AdrTuple Addr → Bool) Nat

namespace SessionManager

section Operations

variable {Addr : Type} [LinearOrder Addr]

def create : SessionManager Addr := ⟨[], .empty⟩

def addSession (session : Nat) (manager : SessionManager Addr) : SessionManager Addr :=
  match manager.sessions[session]? with
  | none => manager
  | some object => { manager with udpSessions := manager.udpSessions.assign object.udpTuple session }

def removeSession (tuple : AdrTuple Addr) (manager : SessionManager Addr) : SessionManager Addr :=
  match manager.udpSessions.find tuple with
  | some _ => { manager with udpSessions := manager.udpSessions.erase tuple }
  | none => manager

def handleConnectionFailed (session : Nat) (manager : SessionManager Addr) : SessionManager Addr :=
  match manager.sessions[session]? with
  | none => manager
  | some object => manager.removeSession object.udpTuple

-- The loop of deliver_from_udp_peer over the map: it compares the tuples the sessions
-- hold, not the keys.
def scan (tuple : AdrTuple Addr) (manager : SessionManager Addr) : Option Nat :=
  (manager.udpSessions.entries.find? fun entry =>
    manager.sessions[entry.2]?.any fun object => object.udpTuple.equal tuple).map Prod.snd

-- The handler of a finished operation of the session. The one close_session posts is
-- handle_connection_failed.
def complete (session index : Nat) (completion : Completion Addr) (manager : SessionManager Addr) :
    Option (SessionManager Addr × Option RouterPacket) :=
  match manager.sessions[session]? with
  | none => none
  | some object =>
      match object.pending[index]?, object.complete index completion with
      | some op, some (next, packet) =>
          let handled := { manager with sessions := manager.sessions.set session next }
          some (if op.isClose = true then handled.handleConnectionFailed session else handled, packet)
      | _, _ => none

end Operations

section Delivery

variable {Addr : Type} [AsioAddress Addr]

def addRouterPacket (session : Nat) (raw : CharArray payloadCapacity) (packet : RouterPacket) (manager : SessionManager Addr) :
    SessionManager Addr :=
  { manager with sessions := manager.sessions.modify session (RouterSession.addRouterPacket raw packet) }

def deliverFromUdpPeer (raw : CharArray payloadCapacity) (tuple : AdrTuple Addr) (data : Bytes) (manager : SessionManager Addr) :
    SessionManager Addr :=
  match manager.scan tuple with
  | none =>
      let session := manager.sessions.length
      let created := { manager with sessions := manager.sessions ++ [RouterSession.create tuple] }
      (created.addSession session).addRouterPacket session raw (udpPacket tuple data)
  | some session => manager.addRouterPacket session raw (udpPacket tuple data)

end Delivery

end SessionManager

inductive ManagerEvent (Addr : Type) where
  | deliverFromUdpPeer (raw : CharArray payloadCapacity) (tuple : AdrTuple Addr) (data : Bytes)
  | removeSession (tuple : AdrTuple Addr)
  | handleConnectionFailed (session : Nat)
  | complete (session index : Nat) (completion : Completion Addr)

namespace SessionManager

variable {Addr : Type} [AsioAddress Addr]

def step (manager : SessionManager Addr) : ManagerEvent Addr → Option (SessionManager Addr)
  | .deliverFromUdpPeer raw tuple data =>
      if frameFits tuple data = true then some (manager.deliverFromUdpPeer raw tuple data) else none
  | .removeSession tuple => some (manager.removeSession tuple)
  | .handleConnectionFailed session => some (manager.handleConnectionFailed session)
  | .complete session index completion => (manager.complete session index completion).map Prod.fst

end SessionManager

namespace SessionManager

section Routing

variable {Addr : Type} [LinearOrder Addr]

def queueOf (manager : SessionManager Addr) (tuple : AdrTuple Addr) : List RouterPacket :=
  match manager.udpSessions.find tuple with
  | none => []
  | some session => (manager.sessions[session]?.map RouterSession.udpPacketQueue).getD []

def KeysOwn (manager : SessionManager Addr) : Prop :=
  ∀ key session, manager.udpSessions.find key = some session →
    ∃ object, manager.sessions[session]? = some object ∧ object.udpTuple = key

theorem keys_own_create : KeysOwn (create : SessionManager Addr) := by
  intro key session found
  simp [create, OrderedMap.find, OrderedMap.empty, OrderedMap.findIn] at found

theorem scan_eq_find (manager : SessionManager Addr) (own : KeysOwn manager) (tuple : AdrTuple Addr) :
    manager.scan tuple = manager.udpSessions.find tuple := by
  have hit : ∀ entry ∈ manager.udpSessions.entries,
      (manager.sessions[entry.2]?.any fun object => object.udpTuple.equal tuple) = true ↔ entry.1 = tuple := by
    intro entry member
    obtain ⟨object, present, key⟩ := own entry.1 entry.2 ((OrderedMap.find_some _ _ _).mpr member)
    rw [present, Option.any_some, AdrTuple.equal_iff, key]
  unfold scan
  cases scanned : manager.udpSessions.entries.find? (fun entry =>
      manager.sessions[entry.2]?.any fun object => object.udpTuple.equal tuple) with
  | some entry =>
      have member := List.mem_of_find?_eq_some scanned
      have matched := List.find?_some scanned
      have key := (hit entry member).mp matched
      exact ((OrderedMap.find_some _ _ _).mpr (key ▸ member)).symm
  | none =>
      cases found : manager.udpSessions.find tuple with
      | none => rfl
      | some session =>
          have member := (OrderedMap.find_some _ _ _).mp found
          exact absurd ((hit _ member).mpr rfl) (List.find?_eq_none.mp scanned _ member)

theorem one_session_per_peer (manager : SessionManager Addr) (own : KeysOwn manager) (left right : AdrTuple Addr × Nat)
    (leftMember : left ∈ manager.udpSessions.entries) (rightMember : right ∈ manager.udpSessions.entries)
    (same : manager.sessions[left.2]?.map RouterSession.udpTuple = manager.sessions[right.2]?.map RouterSession.udpTuple) :
    left = right := by
  have leftFound := (OrderedMap.find_some _ _ _).mpr leftMember
  have rightFound := (OrderedMap.find_some _ _ _).mpr rightMember
  obtain ⟨leftObject, leftPresent, leftKey⟩ := own _ _ leftFound
  obtain ⟨rightObject, rightPresent, rightKey⟩ := own _ _ rightFound
  rw [leftPresent, rightPresent] at same
  have keys : left.1 = right.1 := by
    rw [← leftKey, ← rightKey]
    exact Option.some.inj same
  rw [keys, rightFound] at leftFound
  exact Prod.ext keys (Option.some.inj leftFound).symm

theorem remove_session_find (manager : SessionManager Addr) (tuple other : AdrTuple Addr) :
    (manager.removeSession tuple).udpSessions.find other = if other = tuple then none else manager.udpSessions.find other := by
  unfold removeSession
  cases found : manager.udpSessions.find tuple with
  | some session => exact OrderedMap.find_erase _ _ _
  | none =>
      by_cases same : other = tuple
      · simp [same, found]
      · simp [same]

@[simp] theorem remove_session_sessions (manager : SessionManager Addr) (tuple : AdrTuple Addr) :
    (manager.removeSession tuple).sessions = manager.sessions := by
  unfold removeSession
  split <;> rfl

theorem handle_connection_failed_eq (manager : SessionManager Addr) (session : Nat) (object : RouterSession Addr)
    (present : manager.sessions[session]? = some object) :
    manager.handleConnectionFailed session = manager.removeSession object.udpTuple := by
  simp only [handleConnectionFailed, present]

theorem keys_own_remove (manager : SessionManager Addr) (tuple : AdrTuple Addr) (own : KeysOwn manager) :
    KeysOwn (manager.removeSession tuple) := by
  intro key session found
  rw [remove_session_find] at found
  rw [remove_session_sessions]
  split at found
  · cases found
  · exact own key session found

theorem keys_own_failed (manager : SessionManager Addr) (session : Nat) (own : KeysOwn manager) :
    KeysOwn (manager.handleConnectionFailed session) := by
  unfold handleConnectionFailed
  split
  · exact own
  · exact keys_own_remove manager _ own

theorem keys_own_set (manager : SessionManager Addr) (session : Nat) (object next : RouterSession Addr)
    (present : manager.sessions[session]? = some object) (tuple : next.udpTuple = object.udpTuple) (own : KeysOwn manager) :
    KeysOwn { manager with sessions := manager.sessions.set session next } := by
  intro key other found
  obtain ⟨otherObject, otherPresent, otherKey⟩ := own key other found
  have bound := (List.getElem?_eq_some_iff.mp present).1
  by_cases same : session = other
  · subst same
    refine ⟨next, by simp [bound], ?_⟩
    rw [present] at otherPresent
    rw [tuple, Option.some.inj otherPresent]
    exact otherKey
  · exact ⟨otherObject, by simpa [List.getElem?_set_ne same] using otherPresent, otherKey⟩

theorem complete_cases (manager next : SessionManager Addr) (session index : Nat) (completion : Completion Addr)
    (packet : Option RouterPacket) (completed : manager.complete session index completion = some (next, packet)) :
    ∃ object op after, manager.sessions[session]? = some object ∧ object.pending[index]? = some op ∧
      (object.finishOp index).handle op completion = some (after, packet) ∧ after.udpTuple = object.udpTuple ∧
      ((op.isClose = true ∧
        next = ({ manager with sessions := manager.sessions.set session after } : SessionManager Addr).handleConnectionFailed session) ∨
       (op.isClose = false ∧ next = { manager with sessions := manager.sessions.set session after })) := by
  unfold complete at completed
  split at completed
  · cases completed
  · rename_i object present
    split at completed
    · rename_i op after given found handledHere
      have handled := RouterSession.complete_found _ _ _ _ _ _ found handledHere
      obtain ⟨fresh, effect⟩ := handle_effect _ after op completion given handled
      obtain ⟨same, rfl⟩ := Prod.mk.inj (Option.some.inj completed)
      refine ⟨object, op, after, present, found, handled, effect.starts.tuple, ?_⟩
      cases close : op.isClose with
      | true => exact .inl ⟨rfl, by simpa [close] using same.symm⟩
      | false => exact .inr ⟨rfl, by simpa [close] using same.symm⟩
    · cases completed

theorem completed_sessions (manager next : SessionManager Addr) (session : Nat) (op : SessionOp Addr)
    (object after : RouterSession Addr) (present : manager.sessions[session]? = some object)
    (outcome : (op.isClose = true ∧
        next = ({ manager with sessions := manager.sessions.set session after } : SessionManager Addr).handleConnectionFailed session) ∨
       (op.isClose = false ∧ next = { manager with sessions := manager.sessions.set session after })) :
    next.sessions = manager.sessions.set session after := by
  have bound := (List.getElem?_eq_some_iff.mp present).1
  cases outcome with
  | inl closed => rw [closed.2, handle_connection_failed_eq _ session after (by simp [bound]), remove_session_sessions]
  | inr other => rw [other.2]

theorem keys_own_complete (manager next : SessionManager Addr) (session index : Nat) (completion : Completion Addr)
    (packet : Option RouterPacket) (own : KeysOwn manager)
    (completed : manager.complete session index completion = some (next, packet)) : KeysOwn next := by
  obtain ⟨object, op, after, present, _, _, tuple, ⟨_, rfl⟩ | ⟨_, rfl⟩⟩ :=
    complete_cases manager next session index completion packet completed
  · exact keys_own_failed _ session (keys_own_set manager session object after present tuple own)
  · exact keys_own_set manager session object after present tuple own

end Routing

section Delivered

variable {Addr : Type} [AsioAddress Addr]

theorem deliver_cases (manager : SessionManager Addr) (raw : CharArray payloadCapacity) (tuple : AdrTuple Addr) (data : Bytes)
    (own : KeysOwn manager) :
    (∃ session object, manager.udpSessions.find tuple = some session ∧ manager.sessions[session]? = some object ∧
      object.udpTuple = tuple ∧ manager.deliverFromUdpPeer raw tuple data =
        { manager with sessions := manager.sessions.set session (object.addRouterPacket raw (udpPacket tuple data)) }) ∨
    (manager.udpSessions.find tuple = none ∧ manager.deliverFromUdpPeer raw tuple data =
      { sessions := manager.sessions ++ [(RouterSession.create tuple).addRouterPacket raw (udpPacket tuple data)]
        udpSessions := manager.udpSessions.assign tuple manager.sessions.length }) := by
  unfold deliverFromUdpPeer
  rw [scan_eq_find manager own tuple]
  cases found : manager.udpSessions.find tuple with
  | some session =>
      obtain ⟨object, present, key⟩ := own tuple session found
      obtain ⟨bound, atIndex⟩ := List.getElem?_eq_some_iff.mp present
      refine .inl ⟨session, object, rfl, present, key, ?_⟩
      simp only [addRouterPacket, List.modify_eq_set_get _ bound]
      simp [atIndex]
  | none =>
      refine .inr ⟨rfl, ?_⟩
      have present : (manager.sessions ++ [RouterSession.create tuple])[manager.sessions.length]? = some (RouterSession.create tuple) := by
        simp
      simp only [addSession, present, addRouterPacket]
      rw [List.modify_eq_take_cons_drop (by simp)]
      simp [RouterSession.create]

theorem keys_own_deliver (manager : SessionManager Addr) (raw : CharArray payloadCapacity) (tuple : AdrTuple Addr) (data : Bytes)
    (own : KeysOwn manager) : KeysOwn (manager.deliverFromUdpPeer raw tuple data) := by
  rcases deliver_cases manager raw tuple data own with ⟨session, object, _, present, _, delivered⟩ | ⟨_, delivered⟩
  · obtain ⟨_, starts, _⟩ := add_router_packet_starts object raw (udpPacket tuple data)
    rw [delivered]
    exact keys_own_set manager session object _ present starts.tuple own
  · obtain ⟨_, starts, _⟩ := add_router_packet_starts (RouterSession.create tuple) raw (udpPacket tuple data)
    rw [delivered]
    intro key session found
    rw [OrderedMap.find_assign] at found
    by_cases same : key = tuple
    · rw [if_pos same] at found
      obtain rfl := Option.some.inj found
      exact ⟨_, by simp, starts.tuple.trans same.symm⟩
    · rw [if_neg same] at found
      obtain ⟨object, present, owned⟩ := own key session found
      have bound := (List.getElem?_eq_some_iff.mp present).1
      exact ⟨object, by rw [List.getElem?_append_left bound]; exact present, owned⟩

theorem keys_own_step (manager next : SessionManager Addr) (event : ManagerEvent Addr) (own : KeysOwn manager)
    (stepped : manager.step event = some next) : KeysOwn next := by
  cases event with
  | deliverFromUdpPeer raw tuple data =>
      obtain ⟨_, same⟩ := Option.ite_none_right_eq_some.mp stepped
      cases same
      exact keys_own_deliver manager raw tuple data own
  | removeSession tuple =>
      cases stepped
      exact keys_own_remove manager tuple own
  | handleConnectionFailed session =>
      cases stepped
      exact keys_own_failed manager session own
  | complete session index completion =>
      obtain ⟨⟨after, packet⟩, completed, rfl⟩ := Option.map_eq_some_iff.mp stepped
      exact keys_own_complete manager after session index completion packet own completed

structure SessionMap (manager : SessionManager Addr) : Prop where
  own : ∀ entry ∈ manager.udpSessions.entries, ∃ object, manager.sessions[entry.2]? = some object ∧ object.udpTuple = entry.1
  single : ∀ left ∈ manager.udpSessions.entries, ∀ right ∈ manager.udpSessions.entries,
    manager.sessions[left.2]?.map RouterSession.udpTuple = manager.sessions[right.2]?.map RouterSession.udpTuple → left = right
  agrees : ∀ tuple, manager.scan tuple = manager.udpSessions.find tuple

structure Delivered (manager after : SessionManager Addr) (tuple : AdrTuple Addr) (packet : RouterPacket) : Prop where
  routed : ∃ session object, after.udpSessions.find tuple = some session ∧ after.sessions[session]? = some object ∧
    object.udpTuple = tuple ∧ object.udpPacketQueue = manager.queueOf tuple ++ [packet]
  created : after.sessions.length = manager.sessions.length + if (manager.udpSessions.find tuple).isNone then 1 else 0
  reused : ∀ session, manager.udpSessions.find tuple = some session → after.udpSessions.find tuple = some session
  others : ∀ other, other ≠ tuple → after.udpSessions.find other = manager.udpSessions.find other ∧
    ∀ session, manager.udpSessions.find other = some session → after.sessions[session]? = manager.sessions[session]?
  untouched : ∀ session, session < manager.sessions.length → after.udpSessions.find tuple ≠ some session →
    after.sessions[session]? = manager.sessions[session]?

theorem keys_own_session_map (manager : SessionManager Addr) (own : KeysOwn manager) : SessionMap manager where
  own entry member := own entry.1 entry.2 ((OrderedMap.find_some _ _ _).mpr member)
  single left leftMember right rightMember := one_session_per_peer manager own left right leftMember rightMember
  agrees := scan_eq_find manager own

theorem delivered (manager : SessionManager Addr) (raw : CharArray payloadCapacity) (tuple : AdrTuple Addr) (data : Bytes)
    (own : KeysOwn manager) :
    Delivered manager (manager.deliverFromUdpPeer raw tuple data) tuple (.copyConstruct raw (udpPacket tuple data)) := by
  rcases deliver_cases manager raw tuple data own with ⟨session, object, found, present, owned, after⟩ | ⟨found, after⟩
  · obtain ⟨_, starts, _, _, queue⟩ := add_router_packet_starts object raw (udpPacket tuple data)
    have bound := (List.getElem?_eq_some_iff.mp present).1
    rw [after]
    refine ⟨⟨session, _, found, by simp [bound], starts.tuple.trans owned, ?_⟩, by simp [found], fun _ same => same, ?_, ?_⟩
    · simp only [queue, queueOf, found, present, Option.map_some, Option.getD_some]
    · intro other apart
      refine ⟨rfl, fun otherSession otherFound => List.getElem?_set_ne ?_⟩
      rintro rfl
      obtain ⟨otherObject, otherPresent, otherOwned⟩ := own other session otherFound
      rw [present] at otherPresent
      obtain rfl := Option.some.inj otherPresent
      exact apart (otherOwned.symm.trans owned)
    · intro other _ apart
      refine List.getElem?_set_ne ?_
      rintro rfl
      exact apart found
  · obtain ⟨_, starts, _, _, queue⟩ := add_router_packet_starts (RouterSession.create tuple) raw (udpPacket tuple data)
    rw [after]
    refine ⟨⟨manager.sessions.length, _, ?_, by simp, starts.tuple, ?_⟩, by simp [found], ?_, ?_, ?_⟩
    · rw [OrderedMap.find_assign, if_pos rfl]
    · rw [queue, queueOf, found]
      rfl
    · intro session impossible
      rw [found] at impossible
      cases impossible
    · intro other apart
      refine ⟨by rw [OrderedMap.find_assign, if_neg apart], fun session otherFound => ?_⟩
      obtain ⟨_, present, _⟩ := own other session otherFound
      exact List.getElem?_append_left (List.getElem?_eq_some_iff.mp present).1
    · intro session bound _
      exact List.getElem?_append_left bound

theorem sessions_routed (events : List (ManagerEvent Addr)) (manager : SessionManager Addr)
    (ran : Machine.run step create events = some manager) :
    SessionMap manager ∧ ∀ raw tuple data,
      Delivered manager (manager.deliverFromUdpPeer raw tuple data) tuple (.copyConstruct raw (udpPacket tuple data)) := by
  have own : KeysOwn manager := Machine.run_invariant KeysOwn
    (fun state event next own stepped => keys_own_step state next event own stepped) create manager events keys_own_create ran
  exact ⟨keys_own_session_map manager own, fun raw tuple data => delivered manager raw tuple data own⟩

end Delivered

def comeback : List (ManagerEvent Ipv4) :=
  [.deliverFromUdpPeer CharArray.zeroed samplePeer [1], .deliverFromUdpPeer CharArray.zeroed ⟨.udp, .ofOctets 10 0 0 7, 5⟩ [2],
    .removeSession samplePeer, .deliverFromUdpPeer CharArray.zeroed samplePeer [3], .handleConnectionFailed 1]

theorem sessions_routed_comeback :
    ∃ manager : SessionManager Ipv4, Machine.run step create comeback = some manager ∧
      manager.udpSessions.entries = [(samplePeer, 2)] ∧ SessionMap manager ∧ ∀ raw tuple data,
        Delivered manager (manager.deliverFromUdpPeer raw tuple data) tuple (.copyConstruct raw (udpPacket tuple data)) := by
  obtain ⟨manager, ran, entries⟩ : ∃ manager : SessionManager Ipv4, Machine.run step create comeback = some manager ∧
      manager.udpSessions.entries = [(samplePeer, 2)] := ⟨_, rfl, by decide⟩
  obtain ⟨map, delivers⟩ := sessions_routed comeback manager ran
  exact ⟨manager, ran, entries, map, delivers⟩

end SessionManager

end Rart
