import RamsesProxy.SessionReads

set_option autoImplicit false

namespace Rart

section Views

variable {Addr : Type}

def SessionOp.target : SessionOp Addr → Option (Endpoint Addr)
  | .connect target _ => some target
  | .resolve | .write _ | .readHeader | .readPayload _ | .close => none

def connectsOf (ops : List (SessionOp Addr)) : List (Endpoint Addr) := ops.filterMap SessionOp.target

def closesOf (ops : List (SessionOp Addr)) : Nat := ops.countP SessionOp.isClose

def ResolveResult.endpoints : ResolveResult Addr → List (Endpoint Addr)
  | .found first next => first :: next
  | .failed iterator => iterator

def SessionEvent.resolution : SessionEvent Addr → Option (ResolveResult Addr)
  | .complete _ (.resolved result) => some result
  | _ => none

def SessionEvent.connectError : SessionEvent Addr → Option Bool
  | .complete _ (.connected error) => some error
  | _ => none

def SessionEvent.isAttempt (event : SessionEvent Addr) : Bool := event.resolution.isSome || event.connectError.isSome

def resolutionsOf (events : List (SessionEvent Addr)) : List (ResolveResult Addr) :=
  events.filterMap SessionEvent.resolution

def connectErrors (events : List (SessionEvent Addr)) : List Bool := events.filterMap SessionEvent.connectError

def attemptStarts (run : SessionRun Addr) (event : SessionEvent Addr) (next : SessionRun Addr) : List (SessionOp Addr) :=
  if event.isAttempt then next.session.started.drop run.session.started.length else []

def chainStarts (tuple : AdrTuple Addr) (events : List (SessionEvent Addr)) : List (SessionOp Addr) :=
  Machine.outputs SessionRun.step attemptStarts (.create tuple) events

@[simp] theorem connects_of_append (left right : List (SessionOp Addr)) :
    connectsOf (left ++ right) = connectsOf left ++ connectsOf right := List.filterMap_append

@[simp] theorem closes_of_append (left right : List (SessionOp Addr)) :
    closesOf (left ++ right) = closesOf left + closesOf right := List.countP_append

theorem connects_chain (ops : List (SessionOp Addr)) (unchained : chainOf ops = []) : connectsOf ops = [] := by
  refine List.filterMap_eq_nil_iff.mpr fun op member => ?_
  have other := List.filter_eq_nil_iff.mp unchained op member
  cases op with
  | connect target next => exact absurd rfl other
  | resolve | write _ | readHeader | readPayload _ | close => rfl

end Views

section Handlers

variable {Addr : Type}

def attempt : List (Endpoint Addr) → SessionOp Addr
  | [] => .close
  | target :: next => .connect target next

theorem resolve_starts_attempt (session : RouterSession Addr) (result : ResolveResult Addr) :
    Starts session (session.handleResolve result) [attempt result.endpoints] ∧
      (session.handleResolve result).established = session.established ∧
      (session.handleResolve result).udpPacketQueue = session.udpPacketQueue := by
  cases result with
  | found first next => exact ⟨⟨rfl, rfl, rfl⟩, rfl, rfl⟩
  | failed iterator =>
      cases iterator with
      | nil => exact ⟨⟨rfl, rfl, rfl⟩, rfl, rfl⟩
      | cons first next => exact ⟨⟨rfl, rfl, rfl⟩, rfl, rfl⟩

theorem refused_starts_attempt (session : RouterSession Addr) (iterator : List (Endpoint Addr)) :
    Starts session (session.handleConnection true iterator) [attempt iterator] ∧
      (session.handleConnection true iterator).established = session.established ∧
      (session.handleConnection true iterator).udpPacketQueue = session.udpPacketQueue := by
  cases iterator with
  | nil => exact ⟨⟨rfl, rfl, rfl⟩, rfl, rfl⟩
  | cons first next => exact ⟨⟨rfl, rfl, rfl⟩, rfl, rfl⟩

def connectedStarts (queue : List RouterPacket) : List (SessionOp Addr) := queue.head?.toList.map .write ++ [.readHeader]

theorem connected_starts (session : RouterSession Addr) (iterator : List (Endpoint Addr)) (isOpen : session.socketOpen = true) :
    Starts session (session.handleConnection false iterator) (connectedStarts session.udpPacketQueue) ∧
      (session.handleConnection false iterator).established = true ∧
      (session.handleConnection false iterator).udpPacketQueue = session.udpPacketQueue := by
  unfold RouterSession.handleConnection RouterSession.deliverToTcpPeer
  rw [if_pos ⟨rfl, isOpen⟩, if_neg (by simp [isOpen])]
  cases queue : session.udpPacketQueue with
  | nil => exact ⟨⟨rfl, rfl, rfl⟩, rfl, rfl⟩
  | cons front rest =>
      refine ⟨⟨rfl, ?_, ?_⟩, rfl, rfl⟩
      · simp [connectedStarts, RouterSession.startReadFromTcp]
      · simp [connectedStarts, RouterSession.startReadFromTcp]

end Handlers

section Phases

variable {Addr : Type}

structure Unresolved (session : RouterSession Addr) : Prop where
  unestablished : session.established = false
  connects : connectsOf session.started = []
  closes : closesOf session.started = 0
  waiting : ∀ op ∈ chainOf session.pending, op.isResolve = true

-- So many endpoints have refused. The handler of the connect under way holds the
-- endpoints after the one it tries, so the iterator is one ahead of the count.
structure Trying (endpoints : List (Endpoint Addr)) (failures : Nat) (session : RouterSession Addr) : Prop where
  resolved : startsOf session.started = 1
  unestablished : session.established = false
  bounded : failures ≤ endpoints.length
  connects : connectsOf session.started = endpoints.take (failures + 1)
  closes : closesOf session.started = if failures = endpoints.length then 1 else 0
  waiting : chainOf session.pending = chainOf [attempt (endpoints.drop failures)]

structure Connected (endpoints : List (Endpoint Addr)) (failures : Nat) (session : RouterSession Addr) : Prop where
  established : session.established = true
  bounded : failures < endpoints.length
  connects : connectsOf session.started = endpoints.take (failures + 1)

inductive ChainPhase (resolutions : List (ResolveResult Addr)) (errors : List Bool) (chain : List (SessionOp Addr))
    (session : RouterSession Addr) : Prop where
  | unresolved (none : resolutions = []) (quiet : errors = []) (nothing : chain = []) (phase : Unresolved session)
  | trying (result : ResolveResult Addr) (failures : Nat) (one : resolutions = [result])
      (refused : errors = List.replicate failures true) (own : closesOf chain = closesOf session.started)
      (unread : readsOf chain = 0) (phase : Trying result.endpoints failures session)
  | connected (result : ResolveResult Addr) (failures : Nat) (one : resolutions = [result])
      (accepted : errors = List.replicate failures true ++ [false]) (unclosed : closesOf chain = 0)
      (reading : readsOf chain = 1) (phase : Connected result.endpoints failures session)

theorem attempt_connects (endpoints : List (Endpoint Addr)) (failures : Nat) :
    connectsOf [attempt (endpoints.drop failures)] = endpoints[failures]?.toList := by
  rw [← List.head?_drop]
  cases endpoints.drop failures with
  | nil => rfl
  | cons target next => rfl

theorem attempt_closes (endpoints : List (Endpoint Addr)) (failures : Nat) (bounded : failures ≤ endpoints.length) :
    closesOf [attempt (endpoints.drop failures)] = if failures = endpoints.length then 1 else 0 := by
  cases rest : endpoints.drop failures with
  | nil =>
      have passed := List.drop_eq_nil_iff.mp rest
      rw [if_pos (by omega)]
      rfl
  | cons target next =>
      have short : failures ≠ endpoints.length := by
        rintro rfl
        simp at rest
      rw [if_neg short]
      rfl

theorem attempt_reads (endpoints : List (Endpoint Addr)) : readsOf [attempt endpoints] = 0 := by
  cases endpoints with
  | nil => rfl
  | cons target next => rfl

theorem attempt_resolves (endpoints : List (Endpoint Addr)) : startsOf [attempt endpoints] = 0 := by
  cases endpoints with
  | nil => rfl
  | cons target next => rfl

theorem trying_attempt (session next : RouterSession Addr) (endpoints : List (Endpoint Addr)) (failures : Nat)
    (resolved : startsOf session.started = 1) (unestablished : next.established = false) (bounded : failures ≤ endpoints.length)
    (connects : connectsOf session.started = endpoints.take failures) (closes : closesOf session.started = 0)
    (unchained : chainOf session.pending = []) (starts : Starts session next [attempt (endpoints.drop failures)]) :
    Trying endpoints failures next where
  resolved := by rw [starts.started, starts_of_append, resolved, attempt_resolves]
  unestablished := unestablished
  bounded := bounded
  connects := by rw [starts.started, connects_of_append, connects, attempt_connects, List.take_add_one]
  closes := by rw [starts.started, closes_of_append, closes, attempt_closes endpoints failures bounded, Nat.zero_add]
  waiting := by rw [starts.pending, chain_of_append, unchained, List.nil_append]

theorem trying_unchanged (session next : RouterSession Addr) (endpoints : List (Endpoint Addr)) (failures : Nat)
    (phase : Trying endpoints failures session) (started : next.started = session.started)
    (pending : chainOf next.pending = chainOf session.pending) (established : next.established = session.established) :
    Trying endpoints failures next where
  resolved := by rw [started]; exact phase.resolved
  unestablished := established.trans phase.unestablished
  bounded := phase.bounded
  connects := by rw [started]; exact phase.connects
  closes := by rw [started]; exact phase.closes
  waiting := pending.trans phase.waiting

-- A connected session has nothing of the chain left, so whatever starts later is not
-- another attempt.
theorem established_unchained (tuple : AdrTuple Addr) (run : SessionRun Addr)
    (reached : Machine.Reachable SessionRun.step (.create tuple) run) (established : run.session.established = true) :
    chainOf run.session.pending = [] := by
  refine List.filter_eq_nil_iff.mpr fun op member chained => ?_
  obtain ⟨index, found⟩ := List.mem_iff_getElem?.mp member
  have unestablished := chain_unconnected tuple run reached index op found chained
  rw [established] at unestablished
  cases unestablished

theorem connected_goes_on (tuple : AdrTuple Addr) (run next : SessionRun Addr) (event : SessionEvent Addr)
    (endpoints : List (Endpoint Addr)) (failures : Nat) (fresh : List (SessionOp Addr)) (session : RouterSession Addr)
    (reached : Machine.Reachable SessionRun.step (.create tuple) run) (stepped : run.step event = some next)
    (phase : Connected endpoints failures run.session) (established : next.session.established = run.session.established)
    (same : session.started = run.session.started) (starts : Starts session next.session fresh) :
    Connected endpoints failures next.session := by
  have stillUp := established.trans phase.established
  have unchained := established_unchained tuple next (Machine.reachable_step _ _ _ _ reached stepped) stillUp
  rw [starts.pending, chain_of_append, List.append_eq_nil_iff] at unchained
  refine ⟨stillUp, phase.bounded, ?_⟩
  rw [starts.started, connects_of_append, connects_chain fresh unchained.2, List.append_nil, same]
  exact phase.connects

theorem unestablished_add (tuple : AdrTuple Addr) (run : SessionRun Addr) (raw : CharArray payloadCapacity)
    (packet : RouterPacket) (reached : Machine.Reachable SessionRun.step (.create tuple) run)
    (unestablished : run.session.established = false) :
    ∃ fresh, Starts run.session (run.session.addRouterPacket raw packet) fresh ∧
      (fresh = [] ∨ (fresh = [.resolve] ∧ startsOf run.session.started = 0)) := by
  obtain ⟨channel, channelReached, refines⟩ := reachable_refines tuple run reached
  have sound := Channel.reachable_sound channel channelReached
  cases queue : run.session.udpPacketQueue with
  | nil =>
      rcases empty_queue_link run channel refines sound queue with idle | up
      · have starts := refines.starts
        rw [if_pos idle] at starts
        refine ⟨[.resolve], ?_, .inr ⟨rfl, starts⟩⟩
        simp only [RouterSession.addRouterPacket, queue, List.isEmpty_nil, Bool.not_true, if_true,
          RouterSession.deliverToTcpPeer, refines.idleSocket idle]
        exact ⟨rfl, rfl, rfl⟩
      · have established := refines.established.mpr (.inl up)
        rw [unestablished] at established
        cases established
  | cons front rest =>
      refine ⟨[], ?_, .inl rfl⟩
      simp only [RouterSession.addRouterPacket, queue, List.isEmpty_cons, Bool.not_false, Bool.true_eq_false, if_false]
      exact ⟨rfl, by simp, by simp⟩

theorem unestablished_op (tuple : AdrTuple Addr) (run : SessionRun Addr) (index : Nat) (op : SessionOp Addr)
    (reached : Machine.Reachable SessionRun.step (.create tuple) run) (unestablished : run.session.established = false)
    (found : run.session.pending[index]? = some op) (unchained : op.isChain = false) : op = .close := by
  have unread := (reachable_reads_once tuple run reached).connected unestablished
  have finished := finished_reads run.session index op found
  cases op with
  | resolve | connect _ _ => cases unchained
  | write packet =>
      obtain ⟨channel, _, refines⟩ := reachable_refines tuple run reached
      have established := refines.established.mpr (.inl (write_pending run channel refines index packet found).1)
      rw [unestablished] at established
      cases established
  | readHeader | readPayload _ =>
      simp only [SessionOp.readSize, Option.isSome_some, if_true] at finished
      omega
  | close => rfl

theorem resolve_tries (tuple : AdrTuple Addr) (run : SessionRun Addr) (index : Nat) (result : ResolveResult Addr)
    (reached : Machine.Reachable SessionRun.step (.create tuple) run) (phase : Unresolved run.session)
    (found : run.session.pending[index]? = some .resolve) :
    Trying result.endpoints 0 ((run.session.finishOp index).handleResolve result) := by
  obtain ⟨channel, _, refines⟩ := reachable_refines tuple run reached
  obtain ⟨opening, unchained, _⟩ := chain_pending run channel refines index .resolve found rfl
  have resolved := refines.starts
  rw [opening, if_neg (by decide)] at resolved
  obtain ⟨starts, established, _⟩ := resolve_starts_attempt (run.session.finishOp index) result
  exact trying_attempt (run.session.finishOp index) _ result.endpoints 0 resolved (established.trans phase.unestablished)
    (Nat.zero_le _) phase.connects phase.closes unchained starts

theorem trying_iterator (session : RouterSession Addr) (endpoints : List (Endpoint Addr)) (failures index : Nat)
    (op : SessionOp Addr) (phase : Trying endpoints failures session) (found : session.pending[index]? = some op)
    (chained : op.isChain = true) : ∃ target, op = .connect target (endpoints.drop (failures + 1)) ∧ failures < endpoints.length := by
  have member : op ∈ chainOf [attempt (endpoints.drop failures)] := by
    rw [← phase.waiting]
    exact List.mem_filter.mpr ⟨List.mem_of_getElem? found, chained⟩
  have same := List.mem_singleton.mp (List.mem_filter.mp member).1
  cases rest : endpoints.drop failures with
  | nil =>
      rw [same, rest] at chained
      cases chained
  | cons target next =>
      refine ⟨target, ?_, ?_⟩
      · rw [same, rest, ← List.tail_drop, rest]
        rfl
      · by_contra passed
        rw [List.drop_eq_nil_iff.mpr (by omega)] at rest
        cases rest

theorem refused_tries (tuple : AdrTuple Addr) (run : SessionRun Addr) (endpoints iterator : List (Endpoint Addr))
    (target : Endpoint Addr) (failures index : Nat) (reached : Machine.Reachable SessionRun.step (.create tuple) run)
    (phase : Trying endpoints failures run.session) (found : run.session.pending[index]? = some (.connect target iterator)) :
    Trying endpoints (failures + 1) ((run.session.finishOp index).handleConnection true iterator) := by
  obtain ⟨_, same, more⟩ := trying_iterator run.session endpoints failures index _ phase found rfl
  obtain ⟨rfl, rfl⟩ := SessionOp.connect.inj same
  obtain ⟨channel, _, refines⟩ := reachable_refines tuple run reached
  obtain ⟨_, unchained, _⟩ := chain_pending run channel refines index _ found rfl
  have closes := phase.closes
  rw [if_neg (by omega)] at closes
  obtain ⟨starts, established, _⟩ := refused_starts_attempt (run.session.finishOp index) (endpoints.drop (failures + 1))
  exact trying_attempt (run.session.finishOp index) _ endpoints (failures + 1) phase.resolved
    (established.trans phase.unestablished) more phase.connects closes unchained starts

theorem connected_starts_views (queue : List RouterPacket) : chainOf (connectedStarts queue : List (SessionOp Addr)) = [] ∧
    closesOf (connectedStarts queue : List (SessionOp Addr)) = 0 ∧ readsOf (connectedStarts queue : List (SessionOp Addr)) = 1 := by
  cases queue with
  | nil => exact ⟨rfl, rfl, rfl⟩
  | cons front rest => exact ⟨rfl, rfl, rfl⟩

theorem accepted_connects (tuple : AdrTuple Addr) (run : SessionRun Addr) (endpoints iterator : List (Endpoint Addr))
    (target : Endpoint Addr) (failures index : Nat) (reached : Machine.Reachable SessionRun.step (.create tuple) run)
    (phase : Trying endpoints failures run.session) (found : run.session.pending[index]? = some (.connect target iterator)) :
    Connected endpoints failures ((run.session.finishOp index).handleConnection false iterator) := by
  have more := (trying_iterator run.session endpoints failures index _ phase found rfl).choose_spec.2
  have isOpen := connecting_open tuple run reached index target iterator found
  obtain ⟨starts, established, _⟩ := connected_starts (run.session.finishOp index) iterator isOpen
  refine ⟨established, more, ?_⟩
  rw [starts.started, connects_of_append, connects_chain _ (connected_starts_views _).1, List.append_nil]
  exact phase.connects

theorem attempt_starts_fresh (run next : SessionRun Addr) (event : SessionEvent Addr) (fresh : List (SessionOp Addr))
    (attempted : event.isAttempt = true) (started : next.session.started = run.session.started ++ fresh) :
    attemptStarts run event next = fresh := by
  rw [attemptStarts, if_pos attempted, started, List.drop_left]

def PhaseAfter (run : SessionRun Addr) (resolutions : List (ResolveResult Addr)) (errors : List Bool)
    (chain : List (SessionOp Addr)) (event : SessionEvent Addr) (next : SessionRun Addr) : Prop :=
  ChainPhase (resolutions ++ event.resolution.toList) (errors ++ event.connectError.toList)
    (chain ++ attemptStarts run event next) next.session

variable {resolutions : List (ResolveResult Addr)} {errors : List Bool} {chain : List (SessionOp Addr)}

theorem phase_after_other (run next : SessionRun Addr) (event : SessionEvent Addr) (unresolved : event.resolution = none)
    (unconnected : event.connectError = none) (phase : ChainPhase resolutions errors chain next.session) :
    PhaseAfter run resolutions errors chain event next := by
  have other : event.isAttempt = false := by rw [SessionEvent.isAttempt, unresolved, unconnected]; rfl
  rw [PhaseAfter, unresolved, unconnected, attemptStarts, if_neg (by simp [other])]
  simpa using phase

theorem phase_add (tuple : AdrTuple Addr) (run next : SessionRun Addr) (raw : CharArray payloadCapacity) (packet : RouterPacket)
    (reached : Machine.Reachable SessionRun.step (.create tuple) run) (phase : ChainPhase resolutions errors chain run.session)
    (stepped : run.step (.addRouterPacket raw packet) = some next) :
    PhaseAfter run resolutions errors chain (.addRouterPacket raw packet) next := by
  apply phase_after_other run next _ rfl rfl
  obtain ⟨_, _, _, established, _⟩ := add_router_packet_starts run.session raw packet
  cases phase with
  | unresolved none quiet nothing phase =>
      obtain ⟨fresh, starts, outcome⟩ := unestablished_add tuple run raw packet reached phase.unestablished
      cases stepped
      refine .unresolved none quiet nothing ⟨established.trans phase.unestablished, ?_, ?_, ?_⟩
      · rw [starts.started, connects_of_append, phase.connects]
        rcases outcome with rfl | ⟨rfl, _⟩ <;> rfl
      · rw [starts.started, closes_of_append, phase.closes]
        rcases outcome with rfl | ⟨rfl, _⟩ <;> rfl
      · intro op member
        rw [starts.pending, chain_of_append, List.mem_append] at member
        rcases member with old | fresh
        · exact phase.waiting op old
        · rcases outcome with rfl | ⟨rfl, _⟩
          · cases fresh
          · rw [List.mem_singleton.mp fresh]
            rfl
  | trying result failures one refused own unread phase =>
      obtain ⟨fresh, starts, outcome⟩ := unestablished_add tuple run raw packet reached phase.unestablished
      obtain rfl : fresh = [] := by
        rcases outcome with none | ⟨_, idle⟩
        · exact none
        · have resolved := phase.resolved
          omega
      have started := starts.started.trans (List.append_nil _)
      have pending := starts.pending.trans (List.append_nil _)
      cases stepped
      refine .trying result failures one refused (own.trans (congrArg closesOf started).symm) unread ?_
      exact trying_unchanged run.session _ result.endpoints failures phase started (congrArg chainOf pending) established
  | connected result failures one accepted unclosed reading phase =>
      obtain ⟨fresh, starts, _⟩ := add_router_packet_starts run.session raw packet
      have goesOn := connected_goes_on tuple run next _ result.endpoints failures fresh run.session reached stepped phase
      cases stepped
      exact .connected result failures one accepted unclosed reading (goesOn established rfl starts)

theorem phase_resolve (tuple : AdrTuple Addr) (run : SessionRun Addr) (index : Nat) (result : ResolveResult Addr)
    (reached : Machine.Reachable SessionRun.step (.create tuple) run) (phase : ChainPhase resolutions errors chain run.session)
    (found : run.session.pending[index]? = some .resolve) :
    PhaseAfter run resolutions errors chain (.complete index (.resolved result))
      (run.record .resolve (.resolved result) ((run.session.finishOp index).handleResolve result)) := by
  cases phase with
  | unresolved none quiet nothing phase =>
      have starts := (resolve_starts_attempt (run.session.finishOp index) result).1
      have tries := resolve_tries tuple run index result reached phase found
      subst none quiet nothing
      rw [PhaseAfter, attempt_starts_fresh run _ _ [attempt result.endpoints] rfl starts.started]
      refine .trying result 0 rfl rfl ?_ (attempt_reads result.endpoints) tries
      have attempts := attempt_closes result.endpoints 0 (Nat.zero_le _)
      exact attempts.trans tries.closes.symm
  | trying earlier failures _ _ _ _ phase =>
      obtain ⟨_, impossible, _⟩ := trying_iterator run.session earlier.endpoints failures index .resolve phase found rfl
      cases impossible
  | connected earlier failures _ _ _ _ phase =>
      have unestablished := chain_unconnected tuple run reached index .resolve found rfl
      rw [phase.established] at unestablished
      cases unestablished

theorem phase_connect (tuple : AdrTuple Addr) (run : SessionRun Addr) (index : Nat) (target : Endpoint Addr)
    (iterator : List (Endpoint Addr)) (error : Bool) (reached : Machine.Reachable SessionRun.step (.create tuple) run)
    (phase : ChainPhase resolutions errors chain run.session)
    (found : run.session.pending[index]? = some (.connect target iterator)) :
    PhaseAfter run resolutions errors chain (.complete index (.connected error))
      (run.record (.connect target iterator) (.connected error) ((run.session.finishOp index).handleConnection error iterator)) := by
  cases phase with
  | unresolved _ _ _ phase =>
      have impossible := phase.waiting _ (List.mem_filter.mpr ⟨List.mem_of_getElem? found, rfl⟩)
      cases impossible
  | trying result failures one refused own unread phase =>
      obtain ⟨_, same, more⟩ := trying_iterator run.session result.endpoints failures index _ phase found rfl
      have closes := phase.closes
      rw [if_neg (by omega)] at closes
      subst one refused
      cases error with
      | true =>
          have starts := (refused_starts_attempt (run.session.finishOp index) iterator).1
          have tries := refused_tries tuple run result.endpoints iterator target failures index reached phase found
          rw [PhaseAfter, attempt_starts_fresh run _ _ [attempt iterator] rfl starts.started]
          refine .trying result (failures + 1) rfl List.replicate_succ'.symm ?_ ?_ tries
          · rw [closes_of_append, own]
            exact ((congrArg closesOf starts.started).trans (closes_of_append _ _)).symm
          · rw [reads_of_append, unread, attempt_reads]
      | false =>
          have isOpen := connecting_open tuple run reached index target iterator found
          have starts := (connected_starts (run.session.finishOp index) iterator isOpen).1
          have connects := accepted_connects tuple run result.endpoints iterator target failures index reached phase found
          rw [PhaseAfter, attempt_starts_fresh run _ _ _ rfl starts.started]
          refine .connected result failures rfl rfl ?_ ?_ connects
          · rw [closes_of_append, own, closes, (connected_starts_views _).2.1]
          · rw [reads_of_append, unread, (connected_starts_views _).2.2]
  | connected result failures _ _ _ _ phase =>
      have unestablished := chain_unconnected tuple run reached index _ found rfl
      rw [phase.established] at unestablished
      cases unestablished

theorem phase_other (tuple : AdrTuple Addr) (run next : SessionRun Addr) (index : Nat) (op : SessionOp Addr)
    (completion : Completion Addr) (packet : Option RouterPacket)
    (reached : Machine.Reachable SessionRun.step (.create tuple) run) (phase : ChainPhase resolutions errors chain run.session)
    (found : run.session.pending[index]? = some op) (unchained : op.isChain = false)
    (handled : (run.session.finishOp index).handle op completion = some (next.session, packet))
    (stepped : run.step (.complete index completion) = some next) : ChainPhase resolutions errors chain next.session := by
  have closed (unestablished : run.session.established = false) :
      next.session = run.session.finishOp index ∧ chainOf next.session.pending = chainOf run.session.pending := by
    obtain rfl := unestablished_op tuple run index op reached unestablished found unchained
    have same : next.session = run.session.finishOp index := by
      generalize next.session = after at handled ⊢
      cases RouterSession.handled_of_handle handled with
      | close => rfl
    rw [same]
    exact ⟨rfl, (quiet_finish_op run.session index .close found rfl rfl).chain⟩
  cases phase with
  | unresolved none quiet nothing phase =>
      obtain ⟨same, pending⟩ := closed phase.unestablished
      refine .unresolved none quiet nothing ⟨?_, ?_, ?_, ?_⟩
      · rw [same]
        exact phase.unestablished
      · rw [same]
        exact phase.connects
      · rw [same]
        exact phase.closes
      · rw [pending]
        exact phase.waiting
  | trying result failures one refused own unread phase =>
      obtain ⟨same, pending⟩ := closed phase.unestablished
      have started : next.session.started = run.session.started := by rw [same]; rfl
      refine .trying result failures one refused (by rw [own, started]) unread ?_
      exact trying_unchanged run.session next.session result.endpoints failures phase started pending (by rw [same]; rfl)
  | connected result failures one accepted unclosed reading phase =>
      obtain ⟨fresh, effect⟩ := handle_effect _ next.session op completion packet handled
      exact .connected result failures one accepted unclosed reading (connected_goes_on tuple run next _ result.endpoints failures
        fresh (run.session.finishOp index) reached stepped phase (effect.keeps unchained) rfl effect.starts)

theorem phase_step (tuple : AdrTuple Addr) (run next : SessionRun Addr) (event : SessionEvent Addr)
    (reached : Machine.Reachable SessionRun.step (.create tuple) run) (phase : ChainPhase resolutions errors chain run.session)
    (stepped : run.step event = some next) : PhaseAfter run resolutions errors chain event next := by
  cases event with
  | addRouterPacket raw packet => exact phase_add tuple run next raw packet reached phase stepped
  | complete index completion =>
      obtain ⟨op, session, packet, found, handled, rfl⟩ := SessionRun.step_complete run next index completion stepped
      cases RouterSession.handled_of_handle handled with
      | resolve result => exact phase_resolve tuple run index result reached phase found
      | connect target iterator error => exact phase_connect tuple run index target iterator error reached phase found
      | write _ _ | readHeader _ _ _ | readPayload _ _ _ _ | close =>
          have kept := phase_other tuple run _ index _ _ _ reached phase found rfl handled stepped
          exact phase_after_other run _ _ rfl rfl kept

theorem run_phase (tuple : AdrTuple Addr) (events : List (SessionEvent Addr)) (run : SessionRun Addr)
    (ran : Machine.run SessionRun.step (.create tuple) events = some run) :
    ChainPhase (resolutionsOf events) (connectErrors events) (chainStarts tuple events) run.session := by
  refine Machine.run_history (fun before state => ChainPhase (resolutionsOf before) (connectErrors before)
    (chainStarts tuple before) state.session) (.create tuple) ?_ ?_ events run ran
  · exact .unresolved rfl rfl rfl ⟨rfl, rfl, rfl, by simp [SessionRun.create, RouterSession.create]⟩
  · intro before state event next ranBefore phase stepped
    have after := phase_step tuple state next event ⟨before, ranBefore⟩ phase stepped
    rw [resolutionsOf, connectErrors, chainStarts, Sequences.filter_map_snoc, Sequences.filter_map_snoc,
      Machine.outputs_snoc attemptStarts _ _ _ before event ranBefore stepped]
    exact after

end Phases

section Retry

variable {Addr : Type}

-- Over the outcomes of the attempts so far, in the order the handlers saw them. The chain
-- is what these handlers have started; a connected session posts closes of its own.
structure TriesInOrder (endpoints : List (Endpoint Addr)) (errors : List Bool) (chain : List (SessionOp Addr))
    (session : RouterSession Addr) : Prop where
  attempts : connectsOf session.started = endpoints.take ((errors.takeWhile id).length + 1)
  bounded : (connectsOf session.started).length ≤ endpoints.length
  answered : errors.length ≤ (connectsOf session.started).length
  refused : ∀ error ∈ errors.dropLast, error = true
  underWay : false ∉ errors → chainOf session.pending = chainOf [attempt (endpoints.drop errors.length)]
  closes : closesOf chain = if errors = List.replicate endpoints.length true then 1 else 0
  onlyCloses : false ∉ errors → closesOf session.started = closesOf chain
  reads : readsOf chain = if false ∈ errors then 1 else 0

structure AttemptHandled (session : RouterSession Addr) (event : SessionEvent Addr) (next : RouterSession Addr) : Prop where
  queue : next.udpPacketQueue = session.udpPacketQueue
  connected : event.connectError = some false →
    next.started = session.started ++ session.udpPacketQueue.head?.toList.map .write ++ [.readHeader]

theorem trying_in_order (endpoints : List (Endpoint Addr)) (failures : Nat) (chain : List (SessionOp Addr))
    (session : RouterSession Addr) (phase : Trying endpoints failures session) (own : closesOf chain = closesOf session.started)
    (unread : readsOf chain = 0) : TriesInOrder endpoints (List.replicate failures true) chain session where
  attempts := by simp [phase.connects]
  bounded := by simp [phase.connects]
  answered := by simp [phase.connects, phase.bounded]
  refused := by simp
  underWay := fun _ => by rw [List.length_replicate]; exact phase.waiting
  closes := by simp [own, phase.closes]
  onlyCloses := fun _ => own.symm
  reads := by simp [unread]

theorem connected_in_order (endpoints : List (Endpoint Addr)) (failures : Nat) (chain : List (SessionOp Addr))
    (session : RouterSession Addr) (phase : Connected endpoints failures session) (unclosed : closesOf chain = 0)
    (reading : readsOf chain = 1) : TriesInOrder endpoints (List.replicate failures true ++ [false]) chain session where
  attempts := by simp [phase.connects]
  bounded := by simp [phase.connects]
  answered := by
    simp only [phase.connects, List.length_append, List.length_replicate, List.length_singleton, List.length_take]
    exact le_min le_rfl phase.bounded
  refused := by simp
  underWay := by simp
  closes := by
    rw [unclosed, if_neg]
    intro same
    have wrong : false ∈ List.replicate endpoints.length true := by simp [← same]
    simp at wrong
  onlyCloses := by simp
  reads := by simp [reading]

theorem attempt_handled (tuple : AdrTuple Addr) (run next : SessionRun Addr) (event : SessionEvent Addr)
    (reached : Machine.Reachable SessionRun.step (.create tuple) run) (attempted : event.isAttempt = true)
    (stepped : run.step event = some next) : AttemptHandled run.session event next.session := by
  cases event with
  | addRouterPacket _ _ => cases attempted
  | complete index completion =>
      obtain ⟨op, session, packet, found, handled, rfl⟩ := SessionRun.step_complete run next index completion stepped
      cases RouterSession.handled_of_handle handled with
      | resolve result => exact ⟨(resolve_starts_attempt _ result).2.2, fun other => (by cases other)⟩
      | connect target iterator error =>
          cases error with
          | true => exact ⟨(refused_starts_attempt _ iterator).2.2, fun other => (by cases other)⟩
          | false =>
              have isOpen := connecting_open tuple run reached index target iterator found
              obtain ⟨starts, _, queue⟩ := connected_starts (run.session.finishOp index) iterator isOpen
              refine ⟨queue, fun _ => ?_⟩
              rw [List.append_assoc]
              exact starts.started
      | write _ _ | readHeader _ _ _ | readPayload _ _ _ _ | close => cases attempted

theorem resolved_phase (tuple : AdrTuple Addr) (events : List (SessionEvent Addr)) (run : SessionRun Addr)
    (result : ResolveResult Addr) (ran : Machine.run SessionRun.step (.create tuple) events = some run)
    (resolved : result ∈ resolutionsOf events) :
    (∃ failures, connectErrors events = List.replicate failures true ∧
      closesOf (chainStarts tuple events) = closesOf run.session.started ∧ readsOf (chainStarts tuple events) = 0 ∧
      Trying result.endpoints failures run.session) ∨
    (∃ failures, connectErrors events = List.replicate failures true ++ [false] ∧
      closesOf (chainStarts tuple events) = 0 ∧ readsOf (chainStarts tuple events) = 1 ∧
      Connected result.endpoints failures run.session) := by
  cases run_phase tuple events run ran with
  | unresolved none _ _ _ =>
      rw [none] at resolved
      cases resolved
  | trying other failures one refused own unread phase =>
      rw [one, List.mem_singleton] at resolved
      subst resolved
      exact .inl ⟨failures, refused, own, unread, phase⟩
  | connected other failures one accepted unclosed reading phase =>
      rw [one, List.mem_singleton] at resolved
      subst resolved
      exact .inr ⟨failures, accepted, unclosed, reading, phase⟩

theorem endpoints_tried_in_order (tuple : AdrTuple Addr) (events : List (SessionEvent Addr)) (run : SessionRun Addr)
    (result : ResolveResult Addr) (ran : Machine.run SessionRun.step (.create tuple) events = some run)
    (resolved : result ∈ resolutionsOf events) :
    TriesInOrder result.endpoints (connectErrors events) (chainStarts tuple events) run.session ∧
      (result = .failed [] → connectsOf run.session.started = [] ∧ closesOf run.session.started = 1) ∧
      ∀ before event after, events = before ++ event :: after → event.isAttempt = true →
        ∃ state next, Machine.run SessionRun.step (.create tuple) before = some state ∧ state.step event = some next ∧
          AttemptHandled state.session event next.session := by
  refine ⟨?_, ?_, ?_⟩
  · rcases resolved_phase tuple events run result ran resolved with
      ⟨failures, refused, own, unread, phase⟩ | ⟨failures, accepted, unclosed, reading, phase⟩
    · rw [refused]
      exact trying_in_order result.endpoints failures _ _ phase own unread
    · rw [accepted]
      exact connected_in_order result.endpoints failures _ _ phase unclosed reading
  · rintro rfl
    rcases resolved_phase tuple events run (.failed []) ran resolved with ⟨failures, _, _, _, phase⟩ | ⟨failures, _, _, _, phase⟩
    · obtain rfl : failures = 0 := Nat.le_zero.mp phase.bounded
      exact ⟨phase.connects, phase.closes⟩
    · exact absurd phase.bounded (Nat.not_lt_zero failures)
  · rintro before event after rfl attempted
    rw [Machine.run_append] at ran
    obtain ⟨state, ranBefore, rest⟩ := Option.bind_eq_some_iff.mp ran
    obtain ⟨next, stepped, _⟩ := Machine.run_cons_some state run event after rest
    exact ⟨state, next, ranBefore, stepped, attempt_handled tuple state next event ⟨before, ranBefore⟩ attempted stepped⟩

end Retry

def secondAnswers : List (SessionEvent Ipv4) :=
  [.addRouterPacket CharArray.zeroed ⟨5, 1, CharArray.zeroed⟩,
    .complete 0 (.resolved (.found ⟨.ofOctets 127 0 0 1, 3500⟩ [⟨.ofOctets 127 0 0 2, 3500⟩, ⟨.ofOctets 127 0 0 3, 3500⟩])),
    .complete 0 (.connected true), .complete 0 (.connected false)]

theorem endpoints_tried_in_order_second_answers :
    ∃ run, Machine.run SessionRun.step (.create ⟨.udp, Ipv4.ofOctets 10 0 0 7, 2036⟩) secondAnswers = some run ∧
      connectsOf run.session.started = [⟨.ofOctets 127 0 0 1, 3500⟩, ⟨.ofOctets 127 0 0 2, 3500⟩] := by
  obtain ⟨run, ran⟩ : ∃ run, Machine.run SessionRun.step (.create ⟨.udp, Ipv4.ofOctets 10 0 0 7, 2036⟩) secondAnswers =
      some run := ⟨_, rfl⟩
  have tried := endpoints_tried_in_order _ secondAnswers run _ ran List.mem_cons_self
  exact ⟨run, ran, tried.1.attempts⟩

end Rart
