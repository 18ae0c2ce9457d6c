import RamsesProxy.Lib.Machine

set_option autoImplicit false

universe u

-- A one-way channel over a link that has to be opened first: items are delivered one
-- at a time in the order they were accepted, until the link fails for good.
namespace Channel

inductive Link where
  | idle
  | opening
  | up
  | down
deriving DecidableEq, Repr

inductive Event (Item : Type u) where
  | accept (item : Item)
  | opened
  | refused
  | deliver
  | fail

end Channel

structure Channel (Item : Type u) where
  link : Channel.Link
  accepted : List Item
  delivered : List Item
  waiting : List Item

namespace Channel

variable {Item : Type u}

def start : Channel Item := ⟨.idle, [], [], []⟩

def step (channel : Channel Item) : Event Item → Option (Channel Item)
  | .accept item =>
      some { channel with
        link := if channel.link = .idle then .opening else channel.link
        accepted := channel.accepted ++ [item]
        waiting := channel.waiting ++ [item] }
  | .opened => if channel.link = .opening then some { channel with link := .up } else none
  | .refused => if channel.link = .opening then some { channel with link := .down } else none
  | .deliver =>
      match channel.link, channel.waiting with
      | .up, item :: rest => some { channel with delivered := channel.delivered ++ [item], waiting := rest }
      | _, _ => none
  | .fail =>
      match channel.link, channel.waiting with
      | .up, _ :: _ => some { channel with link := .down }
      | _, _ => none

structure Sound (channel : Channel Item) : Prop where
  kept : channel.delivered ++ channel.waiting = channel.accepted
  quiet : channel.link = .idle → channel.waiting = []
  wanted : channel.link = .opening ∨ channel.link = .down → channel.waiting ≠ []

theorem sound_start : Sound (start : Channel Item) :=
  ⟨rfl, fun _ => rfl, by simp [start]⟩

theorem sound_step (channel next : Channel Item) (event : Event Item) (sound : Sound channel)
    (stepped : step channel event = some next) : Sound next := by
  cases event with
  | accept item =>
      cases stepped
      refine ⟨by simp [← sound.kept], fun idle => ?_, fun _ => by simp⟩
      by_cases wasIdle : channel.link = .idle <;> simp [wasIdle] at idle
  | opened =>
      simp only [step, Option.ite_none_right_eq_some, Option.some.injEq] at stepped
      obtain ⟨opening, rfl⟩ := stepped
      exact ⟨sound.kept, by simp, by simp⟩
  | refused =>
      simp only [step, Option.ite_none_right_eq_some, Option.some.injEq] at stepped
      obtain ⟨opening, rfl⟩ := stepped
      exact ⟨sound.kept, by simp, fun _ => sound.wanted (.inl opening)⟩
  | deliver =>
      simp only [step] at stepped
      split at stepped
      · rename_i item rest up waiting
        cases stepped
        refine ⟨?_, by simp [up], by simp [up]⟩
        rw [← sound.kept, waiting]
        simp
      · cases stepped
  | fail =>
      simp only [step] at stepped
      split at stepped
      · rename_i item rest up waiting
        cases stepped
        exact ⟨sound.kept, by simp, by simp [waiting]⟩
      · cases stepped

theorem reachable_sound (channel : Channel Item) (reached : Machine.Reachable step start channel) : Sound channel :=
  Machine.reachable_invariant Sound (fun state event next sound => sound_step state next event sound)
    start channel sound_start reached

end Channel
