import Mathlib.Data.List.Infix

set_option autoImplicit false

namespace Machine

universe u v w x

variable {State : Type u} {Event : Type v}

-- A machine is a partial step function. An event that is not enabled, or that
-- ends the process, has no next state; a run is a list of events that all have one.
def run (step : State → Event → Option State) : State → List Event → Option State
  | state, [] => some state
  | state, event :: rest => (step state event).bind fun next => run step next rest

def Reachable (step : State → Event → Option State) (start state : State) : Prop :=
  ∃ events, run step start events = some state

def Guarded (step : State → Event → Option State) (allowed : State → Event → Prop) : State → List Event → Prop
  | _, [] => True
  | state, event :: rest =>
      allowed state event ∧ ∀ next, step state event = some next → Guarded step allowed next rest

def Always (step : State → Event → Option State) (holds : State → Prop) (start : State) (events : List Event) : Prop :=
  ∀ before, before <+: events → ∀ state, run step start before = some state → holds state

def outputs {Item : Type w} (step : State → Event → Option State) (output : State → Event → State → List Item) :
    State → List Event → List Item
  | _, [] => []
  | state, event :: rest =>
      match step state event with
      | none => []
      | some next => output state event next ++ outputs step output next rest

variable {step : State → Event → Option State}

@[simp] theorem run_nil (state : State) : run step state [] = some state := rfl

theorem run_cons (state : State) (event : Event) (rest : List Event) :
    run step state (event :: rest) = (step state event).bind fun next => run step next rest := rfl

theorem run_cons_some (state final : State) (event : Event) (rest : List Event)
    (ran : run step state (event :: rest) = some final) :
    ∃ next, step state event = some next ∧ run step next rest = some final :=
  Option.bind_eq_some_iff.mp ran

theorem run_append (state : State) (left right : List Event) :
    run step state (left ++ right) = (run step state left).bind fun middle => run step middle right := by
  induction left generalizing state with
  | nil => rfl
  | cons event rest ih =>
      simp only [List.cons_append, run_cons, Option.bind_assoc, ih]

theorem run_snoc (state middle final : State) (events : List Event) (event : Event)
    (ran : run step state events = some middle) (last : step middle event = some final) :
    run step state (events ++ [event]) = some final := by
  simp [run_append, ran, run_cons, last]

theorem run_snoc_some (state final : State) (events : List Event) (event : Event)
    (ran : run step state (events ++ [event]) = some final) :
    ∃ middle, run step state events = some middle ∧ step middle event = some final := by
  rw [run_append] at ran
  obtain ⟨middle, ranBefore, last⟩ := Option.bind_eq_some_iff.mp ran
  obtain ⟨next, stepped, ended⟩ := run_cons_some middle final event [] last
  cases ended
  exact ⟨middle, ranBefore, stepped⟩

theorem outputs_snoc {Item : Type w} (output : State → Event → State → List Item) (state middle final : State)
    (events : List Event) (event : Event) (ran : run step state events = some middle) (last : step middle event = some final) :
    outputs step output state (events ++ [event]) = outputs step output state events ++ output middle event final := by
  induction events generalizing state with
  | nil =>
      cases ran
      simp [outputs, last]
  | cons first rest ih =>
      obtain ⟨next, stepped, continued⟩ := run_cons_some state middle first rest ran
      simp only [List.cons_append, outputs, stepped, ih next continued, List.append_assoc]

theorem outputs_spend {Item : Type w} (output : State → Event → State → List Item) (allowed : State → Event → Prop)
    (supply : State → Nat → Prop)
    (spend : ∀ state event next amount, supply state amount → allowed state event → step state event = some next →
      ∃ rest, supply next rest ∧ rest + (output state event next).length = amount)
    (start final : State) (events : List Event) (amount : Nat) (initial : supply start amount)
    (guarded : Guarded step allowed start events) (ran : run step start events = some final) :
    ∃ rest, supply final rest ∧ rest + (outputs step output start events).length = amount := by
  induction events generalizing start amount with
  | nil =>
      cases ran
      exact ⟨amount, initial, rfl⟩
  | cons event rest ih =>
      obtain ⟨next, stepped, continued⟩ := run_cons_some start final event rest ran
      obtain ⟨middle, kept, spent⟩ := spend start event next amount initial guarded.1 stepped
      obtain ⟨last, final, total⟩ := ih next middle kept (guarded.2 next stepped) continued
      refine ⟨last, final, ?_⟩
      rw [outputs, stepped, List.length_append, ← spent, ← total]
      omega

theorem run_total (total : ∀ state event, ∃ next, step state event = some next) (start : State) (events : List Event) :
    ∃ final, run step start events = some final := by
  induction events generalizing start with
  | nil => exact ⟨start, rfl⟩
  | cons event rest ih =>
      obtain ⟨next, stepped⟩ := total start event
      obtain ⟨final, ran⟩ := ih next
      exact ⟨final, by rw [run_cons, stepped]; exact ran⟩

theorem outputs_balance {Item : Type w} (taken given : State → Event → State → List Item) (held : State → List Item)
    (invariant : State → Prop)
    (preserve : ∀ state event next, invariant state → step state event = some next → invariant next)
    (balance : ∀ state event next, invariant state → step state event = some next →
      (taken state event next ++ held state).Perm (given state event next ++ held next))
    (start final : State) (events : List Event) (initial : invariant start) (ran : run step start events = some final) :
    (outputs step taken start events ++ held start).Perm (outputs step given start events ++ held final) := by
  induction events generalizing start with
  | nil =>
      cases ran
      exact List.Perm.refl _
  | cons event rest ih =>
      obtain ⟨next, stepped, continued⟩ := run_cons_some start final event rest ran
      have first := balance start event next initial stepped
      have later := ih next (preserve start event next initial stepped) continued
      simp only [outputs, stepped, List.append_assoc]
      calc (taken start event next ++ (outputs step taken next rest ++ held start)).Perm
            (outputs step taken next rest ++ (taken start event next ++ held start)) := List.perm_append_comm_assoc ..
        List.Perm _ (outputs step taken next rest ++ (given start event next ++ held next)) := first.append_left _
        List.Perm _ (given start event next ++ (outputs step taken next rest ++ held next)) := List.perm_append_comm_assoc ..
        List.Perm _ (given start event next ++ (outputs step given next rest ++ held final)) := later.append_left _

theorem run_history (holds : List Event → State → Prop) (start : State) (initial : holds [] start)
    (preserve : ∀ events state event next, run step start events = some state → holds events state →
      step state event = some next → holds (events ++ [event]) next)
    (events : List Event) (final : State) (ran : run step start events = some final) : holds events final := by
  induction events using List.reverseRecOn generalizing final with
  | nil =>
      cases ran
      exact initial
  | append_singleton before event ih =>
      obtain ⟨middle, ranBefore, last⟩ := run_snoc_some start final before event ran
      exact preserve before middle event final ranBefore (ih middle ranBefore) last

theorem fitting_run_invariant (fits : Event → Prop) (invariant : State → Prop)
    (preserve : ∀ state event next, fits event → invariant state → step state event = some next → invariant next)
    (start final : State) (events : List Event) (initial : invariant start) (all : ∀ event ∈ events, fits event)
    (ran : run step start events = some final) : invariant final := by
  induction events generalizing start with
  | nil =>
      cases ran
      exact initial
  | cons event rest ih =>
      obtain ⟨next, stepped, continued⟩ := run_cons_some start final event rest ran
      exact ih next (preserve start event next (all event (by simp)) initial stepped)
        (fun other member => all other (by simp [member])) continued

theorem guarded_run_invariant (fits : Event → Prop) (allowed : State → Event → Prop) (invariant : State → Prop)
    (preserve : ∀ state event next, fits event → invariant state → allowed state event → step state event = some next →
      invariant next)
    (start final : State) (events : List Event) (initial : invariant start) (all : ∀ event ∈ events, fits event)
    (guarded : Guarded step allowed start events) (ran : run step start events = some final) : invariant final := by
  induction events generalizing start with
  | nil =>
      cases ran
      exact initial
  | cons event rest ih =>
      obtain ⟨next, stepped, continued⟩ := run_cons_some start final event rest ran
      exact ih next (preserve start event next (all event (by simp)) initial guarded.1 stepped)
        (fun other member => all other (by simp [member])) (guarded.2 next stepped) continued

theorem run_invariant (invariant : State → Prop)
    (preserve : ∀ state event next, invariant state → step state event = some next → invariant next)
    (start final : State) (events : List Event) (initial : invariant start)
    (ran : run step start events = some final) : invariant final :=
  fitting_run_invariant (fun _ => True) invariant (fun state event next _ => preserve state event next) start final events
    initial (fun _ _ => trivial) ran

theorem reachable_start (start : State) : Reachable step start start := ⟨[], rfl⟩

theorem reachable_step (start state next : State) (event : Event) (reached : Reachable step start state)
    (stepped : step state event = some next) : Reachable step start next := by
  obtain ⟨events, ran⟩ := reached
  exact ⟨events ++ [event], run_snoc start state next events event ran stepped⟩

theorem reachable_invariant (invariant : State → Prop)
    (preserve : ∀ state event next, invariant state → step state event = some next → invariant next)
    (start state : State) (initial : invariant start) (reached : Reachable step start state) : invariant state := by
  obtain ⟨events, ran⟩ := reached
  exact run_invariant invariant preserve start state events initial ran

theorem guarded_mono (allowed other : State → Event → Prop) (invariant : State → Prop)
    (preserve : ∀ state event next, invariant state → allowed state event → step state event = some next → invariant next)
    (gives : ∀ state event, invariant state → allowed state event → other state event) (start : State) (events : List Event)
    (initial : invariant start) (guarded : Guarded step allowed start events) : Guarded step other start events := by
  induction events generalizing start with
  | nil => trivial
  | cons event rest ih =>
      refine ⟨gives start event initial guarded.1, fun next stepped => ?_⟩
      exact ih next (preserve start event next initial guarded.1 stepped) (guarded.2 next stepped)

theorem always_cons (holds : State → Prop) (start next : State) (event : Event) (rest : List Event)
    (stepped : step start event = some next) (always : Always step holds start (event :: rest)) :
    Always step holds next rest := by
  intro before part state ran
  apply always (event :: before) (List.cons_prefix_cons.mpr ⟨rfl, part⟩) state
  simp [run_cons, stepped, ran]

-- When, in good states, a step keeps the property exactly when its guard holds, the
-- runs that keep the property throughout are exactly the guarded ones.
theorem always_iff_guarded (fits : Event → Prop) (allowed : State → Event → Prop) (invariant holds : State → Prop)
    (gives : ∀ state, invariant state → holds state)
    (preserve : ∀ state event next, fits event → invariant state → allowed state event →
      step state event = some next → invariant next)
    (breaks : ∀ state event next, fits event → invariant state → ¬ allowed state event →
      step state event = some next → ¬ holds next)
    (start final : State) (events : List Event) (initial : invariant start) (all : ∀ event ∈ events, fits event)
    (ran : run step start events = some final) :
    Always step holds start events ↔ Guarded step allowed start events := by
  induction events generalizing start with
  | nil =>
      refine ⟨fun _ => trivial, fun _ before part state ranBefore => ?_⟩
      obtain rfl := List.prefix_nil.mp part
      cases ranBefore
      exact gives start initial
  | cons event rest ih =>
      obtain ⟨next, stepped, continued⟩ := run_cons_some start final event rest ran
      have eventFits := all event (by simp)
      have restFits : ∀ other ∈ rest, fits other := fun other member => all other (by simp [member])
      constructor
      · intro always
        have allowedHere : allowed start event := by
          by_contra refused
          apply breaks start event next eventFits initial refused stepped
          exact always [event] (by simp) next (by simp [run_cons, stepped])
        refine ⟨allowedHere, fun other otherStepped => ?_⟩
        obtain rfl := Option.some.inj (stepped.symm.trans otherStepped)
        exact (ih next (preserve start event next eventFits initial allowedHere stepped) restFits continued).mp
          (always_cons holds start next event rest stepped always)
      · intro guarded before part state ranBefore
        cases before with
        | nil =>
            cases ranBefore
            exact gives start initial
        | cons head tail =>
            obtain ⟨rfl, tailPart⟩ := List.cons_prefix_cons.mp part
            obtain ⟨middle, headStepped, tailRan⟩ := run_cons_some start state head tail ranBefore
            obtain rfl := Option.some.inj (stepped.symm.trans headStepped)
            have good := preserve start head next eventFits initial guarded.1 stepped
            exact (ih next good restFits continued).mpr (guarded.2 next stepped) tail tailPart state tailRan

theorem reachable_projection {Other : Type w} {OtherEvent : Type x} {otherStep : Other → OtherEvent → Option Other}
    (project : State → Other) (start : State)
    (simulate : ∀ state event next, Reachable step start state → step state event = some next →
      project next = project state ∨ Reachable otherStep (project state) (project next))
    (state : State) (reached : Reachable step start state) : Reachable otherStep (project start) (project state) := by
  obtain ⟨events, ran⟩ := reached
  induction events using List.reverseRecOn generalizing state with
  | nil =>
      cases ran
      exact reachable_start _
  | append_singleton events event ih =>
      obtain ⟨middle, ranBefore, stepped⟩ := run_snoc_some start state events event ran
      obtain ⟨path, ranPath⟩ := ih middle ranBefore
      rcases simulate middle event state ⟨events, ranBefore⟩ stepped with same | ⟨more, ranMore⟩
      · exact ⟨path, by rw [same, ranPath]⟩
      · exact ⟨path ++ more, by rw [run_append, ranPath]; exact ranMore⟩

end Machine
