import RamsesProxy.UplinkProgress

set_option autoImplicit false

namespace Rart

theorem stalled_of_idle {Addr : Type} (object : RouterSession Addr) (idle : object.pending = [])
    (waiting : object.udpPacketQueue ≠ []) : Stalled object := by
  refine ⟨waiting, ?_, ?_⟩
  · rw [idle]
    rfl
  · rw [idle]
    rfl

namespace Router

variable {Addr : Type} [AsioAddress Addr]

-- The queue of an object whose last shared_ptr goes with this step.
def losses (session : Nat) (router : Router Addr) (_event : RouterEvent Addr) (next : Router Addr) : List RouterPacket :=
  if router.manager.alive session = true ∧ next.manager.alive session = false then
    (next.manager.sessions[session]?.map RouterSession.udpPacketQueue).getD []
  else []

def lostBy (session : Nat) (events : List (RouterEvent Addr)) : List RouterPacket :=
  Machine.outputs step (losses session) create events

def failures (session : Nat) (router : Router Addr) (event : RouterEvent Addr) (_next : Router Addr) : List (SessionOp Addr) :=
  match event with
  | .completed other index completion _ =>
      if other = session then
        (router.manager.sessions[session]?.bind fun object => object.pending[index]?).toList.filter (SessionOp.fails · completion)
      else []
  | .received _ _ _ _ | .sent _ _ => []

def failedBy (session : Nat) (events : List (RouterEvent Addr)) : List (SessionOp Addr) :=
  Machine.outputs step (failures session) create events

section Step

variable (events : List (RouterEvent Addr)) (router next : Router Addr) (event : RouterEvent Addr)

theorem lost_snoc (session : Nat) (ran : Machine.run step create events = some router) (stepped : router.step event = some next) :
    lostBy session (events ++ [event]) = lostBy session events ++ losses session router event next :=
  Machine.outputs_snoc (losses session) create router next events event ran stepped

theorem failed_snoc (session : Nat) (ran : Machine.run step create events = some router) (stepped : router.step event = some next) :
    failedBy session (events ++ [event]) = failedBy session events ++ failures session router event next :=
  Machine.outputs_snoc (failures session) create router next events event ran stepped

theorem losses_alive (session : Nat) (alive : next.manager.alive session = true) : losses session router event next = [] := by
  rw [losses, if_neg]
  rw [alive]
  simp

theorem losses_dead (session : Nat) (dead : router.manager.alive session = false) : losses session router event next = [] := by
  rw [losses, if_neg]
  rw [dead]
  simp

theorem stalled_since (coherent : router.manager.Coherent) (stepped : router.step event = some next) (session : Nat)
    (after : RouterSession Addr) (present : next.manager.sessions[session]? = some after) (stalled : Stalled after) :
    (∃ before, router.manager.sessions[session]? = some before ∧ Stalled before) ∨ failures session router event next ≠ [] := by
  rcases step_manager router next event stepped with
    ⟨error, peer, data, raw, _, same⟩ | ⟨other, index, completion, raw, packet, rfl, completed⟩ | ⟨_, _, _, same⟩
  · rw [same, SessionManager.handleReceive] at present
    by_cases dispatched : error = false ∨ data.length > 0
    · rw [if_pos dispatched] at present
      cases SessionManager.deliver_cases router.manager raw peer.udpTuple data coherent.own with
      | inl reused =>
          obtain ⟨taker, taken, _, takenPresent, _, delivered⟩ := reused
          rw [delivered] at present
          cases Sequences.set_cases _ _ _ _ _ _ takenPresent present with
          | inl here =>
              obtain ⟨rfl, rfl⟩ := here
              exact .inl ⟨taken, takenPresent, (stalled_add taken raw _ stalled).1⟩
          | inr apart => exact .inl ⟨after, apart.2, stalled⟩
      | inr created =>
          rw [created.2] at present
          cases Sequences.snoc_cases _ _ _ _ present with
          | inl old => exact .inl ⟨after, old, stalled⟩
          | inr last =>
              obtain ⟨_, rfl⟩ := last
              exact absurd rfl (stalled_add (RouterSession.create peer.udpTuple) raw _ stalled).1.waiting
    · rw [if_neg dispatched, SessionManager.remove_session_sessions] at present
      exact .inl ⟨after, present, stalled⟩
  · obtain ⟨owner, op, handledAfter, ownerPresent, found, handled, _, outcome⟩ :=
      SessionManager.complete_cases router.manager next.manager other index completion packet completed
    rw [SessionManager.completed_sessions router.manager next.manager other op owner handledAfter ownerPresent outcome] at present
    cases Sequences.set_cases _ _ _ _ _ _ ownerPresent present with
    | inl here =>
        obtain ⟨rfl, rfl⟩ := here
        have own := coherent.runs session owner ownerPresent
        cases stalled_handled owner after index op completion packet own found handled stalled with
        | inl before => exact .inl ⟨owner, ownerPresent, before⟩
        | inr failed =>
            right
            simp [failures, ownerPresent, found, failed.1]
    | inr apart => exact .inl ⟨after, apart.2, stalled⟩
  · rw [same] at present
    exact .inl ⟨after, present, stalled⟩

end Step

structure LossLedger (events : List (RouterEvent Addr)) (router : Router Addr) : Prop where
  unborn : ∀ (session : Nat), router.manager.sessions[session]? = none → lostBy session events = []
  lost : ∀ (session : Nat) object, router.manager.sessions[session]? = some object →
    lostBy session events = if router.manager.alive session = true then [] else object.udpPacketQueue
  failed : ∀ (session : Nat) object, router.manager.sessions[session]? = some object → Stalled object → failedBy session events ≠ []

theorem loss_ledger_create : LossLedger [] (create : Router Addr) := by
  refine ⟨fun _ _ => rfl, fun session object present => ?_, fun session object present => ?_⟩
  · simp [create, SessionManager.create] at present
  · simp [create, SessionManager.create] at present

theorem loss_ledger_step (events : List (RouterEvent Addr)) (router next : Router Addr) (event : RouterEvent Addr)
    (ran : Machine.run step create events = some router) (stepped : router.step event = some next)
    (coherent : router.manager.Coherent) (ledger : LossLedger events router) : LossLedger (events ++ [event]) next := by
  have moved := step_moved router next event coherent stepped
  have ownNext := (coherent_step router next event coherent stepped).own
  refine ⟨fun session absent => ?_, fun session object present => ?_, fun session object present stalled => ?_⟩
  · have grown := SessionManager.moved_grown router.manager next.manager moved
    have before : router.manager.sessions[session]? = none := by
      rw [List.getElem?_eq_none_iff] at absent ⊢
      exact Nat.le_trans grown absent
    rw [lost_snoc events router next event session ran stepped, ledger.unborn session before,
      losses_dead router next event session (SessionManager.unborn_not_alive router.manager coherent.own session before)]
    rfl
  · rw [lost_snoc events router next event session ran stepped]
    cases before : router.manager.sessions[session]? with
    | none =>
        have alive := SessionManager.moved_born router.manager next.manager ownNext moved session object before present
        rw [ledger.unborn session before, losses_alive router next event session alive, alive]
        rfl
    | some old =>
        rw [ledger.lost session old before]
        cases alive : router.manager.alive session with
        | false =>
            obtain ⟨kept, dead⟩ :=
              SessionManager.moved_destroyed router.manager next.manager coherent.own ownNext moved session old before alive
            obtain rfl := Option.some.inj (kept.symm.trans present)
            rw [losses_dead router next event session alive, dead, List.append_nil]
        | true =>
            rw [if_pos rfl, List.nil_append]
            cases aliveNext : next.manager.alive session with
            | true =>
                rw [losses_alive router next event session aliveNext]
                rfl
            | false => simp [losses, alive, aliveNext, present]
  · rw [failed_snoc events router next event session ran stepped]
    cases stalled_since router next event coherent stepped session object present stalled with
    | inl before =>
        obtain ⟨old, oldPresent, oldStalled⟩ := before
        exact List.append_ne_nil_of_left_ne_nil (ledger.failed session old oldPresent oldStalled) _
    | inr failed => exact List.append_ne_nil_of_right_ne_nil _ failed

theorem loss_ledger_run (events : List (RouterEvent Addr)) (router : Router Addr)
    (ran : Machine.run step create events = some router) : LossLedger events router :=
  Machine.run_history LossLedger create loss_ledger_create
    (fun before state event next beforeRan ledger stepped =>
      loss_ledger_step before state next event beforeRan stepped (coherent_run before state beforeRan) ledger)
    events router ran

-- What a session object has lost it has lost whole, with the object, and not before one
-- of its own operations failed.
structure LossAccounted (session : Nat) (events : List (RouterEvent Addr)) (router : Router Addr) : Prop where
  destroyed : lostBy session events ≠ [] → router.manager.alive session = false ∧ router.queueAt session = []
  failed : lostBy session events ≠ [] → failedBy session events ≠ []

theorem loss_accounted (events : List (RouterEvent Addr)) (router : Router Addr)
    (ran : Machine.run step create events = some router) (session : Nat) (object : RouterSession Addr)
    (present : router.manager.sessions[session]? = some object) : LossAccounted session events router := by
  have ledger := loss_ledger_run events router ran
  have lost := ledger.lost session object present
  have dead : lostBy session events ≠ [] → router.manager.alive session = false := by
    intro some
    by_contra alive
    rw [if_pos (by simpa using alive)] at lost
    exact some lost
  refine ⟨fun some => ⟨dead some, ?_⟩, fun some => ?_⟩
  · rw [queueAt, dead some]
    rfl
  · have none := dead some
    rw [none] at lost
    have idle : object.pending = [] := by
      by_contra pending
      have held := (SessionManager.alive_iff router.manager (coherent_run events router ran).own session object present).mpr (.inr pending)
      rw [none] at held
      cases held
    exact ledger.failed session object present (stalled_of_idle object idle (fun empty => some (lost.trans empty)))

-- What a peer's sessions have written, what went with those that are gone, and what the
-- others still hold is, session after session, what the peer has sent.
theorem uplink_conserved (events : List (RouterEvent Addr)) (router : Router Addr)
    (ran : Machine.run step create events = some router) (tuple : AdrTuple Addr) :
    ((router.manager.sessionsOf tuple).flatMap fun session =>
        (writtenBy session events ++ lostBy session events ++ router.queueAt session).map RouterPacket.contents) =
      ((arrivals tuple events).map fun data => (udpPacket tuple data).contents) ∧
    ∀ session ∈ router.manager.sessionsOf tuple, LossAccounted session events router := by
  have ledger := uplink_ledger_run events router ran
  have losses := loss_ledger_run events router ran
  constructor
  · rw [← ledger.routed tuple, List.map_flatMap]
    apply List.flatMap_congr
    intro session member
    obtain ⟨object, present, rfl⟩ := (SessionManager.mem_sessions_of router.manager tuple session).mp member
    have split : lostBy session events ++ router.queueAt session = object.udpPacketQueue := by
      rw [losses.lost session object present, queueAt, present]
      cases router.manager.alive session with
      | true => rfl
      | false => exact List.append_nil _
    rw [← ledger.kept session object present, List.append_assoc, split]
  · intro session member
    obtain ⟨object, present, _⟩ := (SessionManager.mem_sessions_of router.manager tuple session).mp member
    exact loss_accounted events router ran session object present

def lostThenBack : List (RouterEvent Ipv4) :=
  unresolvedServer ++ [.completed 0 0 .posted CharArray.zeroed, .received false ⟨.ofOctets 1 2 3 4, 5⟩ [2] CharArray.zeroed]

theorem uplink_conserved_lost :
    ∃ router : Router Ipv4, Machine.run step create lostThenBack = some router ∧ router.manager.alive 0 = false ∧
      (lostBy 0 lostThenBack).length = 1 ∧ (failedBy 0 lostThenBack).length = 1 ∧ (router.queueAt 1).length = 1 ∧
      [0, 1].flatMap (fun session =>
          (writtenBy session lostThenBack ++ lostBy session lostThenBack ++ router.queueAt session).map RouterPacket.contents) =
        [[1], [2]].map fun data => (udpPacket samplePeer data).contents := by
  obtain ⟨router, ran, sessions, dead, held⟩ : ∃ router : Router Ipv4, Machine.run step create lostThenBack = some router ∧
      router.manager.sessionsOf samplePeer = [0, 1] ∧ router.manager.alive 0 = false ∧ (router.queueAt 1).length = 1 :=
    ⟨_, rfl, by decide, by decide, by decide⟩
  have arrived : arrivals samplePeer lostThenBack = [[1], [2]] := by decide
  have conserved := (uplink_conserved lostThenBack router ran samplePeer).1
  rw [sessions, arrived] at conserved
  exact ⟨router, ran, dead, by rfl, by rfl, held, conserved⟩

end Router

end Rart
