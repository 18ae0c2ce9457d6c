import Mathlib.Data.List.Basic
import Mathlib.Tactic.Common

set_option autoImplicit false

universe u v w

-- Streams of frames: a head of fixed size announces how many items follow, and the
-- items are made into a frame. Reading ends at the first head or body that is refused.
structure FrameStream (Item : Type u) (Head : Type v) (Frame : Type w) where
  headSize : Nat
  positive : 0 < headSize
  head : List Item → Option (Head × Nat)
  frame : Head → List Item → Option Frame

namespace FrameStream

variable {Item : Type u} {Head : Type v} {Frame : Type w} (format : FrameStream Item Head Frame)

def next (stream : List Item) : Option (Frame × List Item) :=
  if stream.length < format.headSize then none
  else match format.head (stream.take format.headSize) with
    | none => none
    | some (head, size) =>
        if (stream.drop format.headSize).length < size then none
        else (format.frame head ((stream.drop format.headSize).take size)).map fun frame =>
          (frame, (stream.drop format.headSize).drop size)

theorem next_shorter (stream rest : List Item) (frame : Frame) (found : format.next stream = some (frame, rest)) :
    rest.length < stream.length := by
  have positive := format.positive
  unfold next at found
  split at found
  · cases found
  · split at found
    · cases found
    · split at found
      · cases found
      · obtain ⟨_, _, same⟩ := Option.map_eq_some_iff.mp found
        obtain ⟨_, rfl⟩ := Prod.mk.inj same
        simp only [List.length_drop]
        omega

def parse (stream : List Item) : List Frame :=
  match _found : format.next stream with
  | none => []
  | some (frame, rest) => frame :: parse rest
termination_by stream.length
decreasing_by exact format.next_shorter stream rest frame _found

theorem parse_none (stream : List Item) (ended : format.next stream = none) : format.parse stream = [] := by
  rw [parse]
  split
  · rfl
  · rename_i found
    cases ended.symm.trans found

theorem parse_some (stream rest : List Item) (frame : Frame) (found : format.next stream = some (frame, rest)) :
    format.parse stream = frame :: format.parse rest := by
  rw [parse]
  split
  · rename_i ended
    cases ended.symm.trans found
  · rename_i other otherRest otherFound
    obtain ⟨rfl, rfl⟩ := Prod.mk.inj (Option.some.inj (otherFound.symm.trans found))
    rfl

theorem parse_nil : format.parse [] = [] := by
  apply parse_none
  simp [next, format.positive]

section Head

variable (header : List Item) (length : header.length = format.headSize)
include length

theorem next_refused (refused : format.head header = none) : format.next header = none := by
  have first : header.take format.headSize = header := by rw [← length, List.take_length]
  simp only [next, length, Nat.lt_irrefl, if_false, first, refused]

theorem next_headed (head : Head) (size : Nat) (accepted : format.head header = some (head, size)) (body more : List Item)
    (whole : body.length = size) :
    format.next (header ++ body ++ more) = (format.frame head body).map fun frame => (frame, more) := by
  have enough : ¬ (header ++ body ++ more).length < format.headSize := by
    simp only [List.length_append]
    omega
  have within : ¬ (body ++ more).length < body.length := by
    simp only [List.length_append]
    omega
  have first : (header ++ body ++ more).take format.headSize = header := by
    rw [← length, List.append_assoc, List.take_left]
  have rest : (header ++ body ++ more).drop format.headSize = body ++ more := by
    rw [← length, List.append_assoc, List.drop_left]
  subst whole
  rw [next, if_neg enough, first, accepted, rest]
  simp only [if_neg within, List.take_left, List.drop_left]

theorem next_waiting (head : Head) (size : Nat) (accepted : format.head header = some (head, size)) (waiting : 0 < size) :
    format.next header = none := by
  have first : header.take format.headSize = header := by rw [← length, List.take_length]
  have rest : header.drop format.headSize = [] := by rw [← length, List.drop_length]
  simp only [next, length, Nat.lt_irrefl, if_false, first, accepted, rest, List.length_nil, if_pos waiting]

end Head

def Consumed (stream : List Item) (frames : List Frame) : Prop :=
  ∀ more, format.parse (stream ++ more) = frames ++ format.parse more

theorem consumed_nil : format.Consumed [] [] := fun _ => rfl

theorem consumed_parse (stream : List Item) (frames : List Frame) (consumed : format.Consumed stream frames) :
    format.parse stream = frames := by
  have whole := consumed []
  rwa [List.append_nil, parse_nil, List.append_nil] at whole

theorem consumed_frame (stream header body : List Item) (frames : List Frame) (head : Head) (frame : Frame)
    (consumed : format.Consumed stream frames) (length : header.length = format.headSize)
    (accepted : format.head header = some (head, body.length)) (framed : format.frame head body = some frame) :
    format.Consumed (stream ++ header ++ body) (frames ++ [frame]) := by
  intro more
  have found := format.next_headed header length head body.length accepted body more rfl
  rw [framed, Option.map_some] at found
  rw [List.append_assoc, List.append_assoc, consumed, ← List.append_assoc, format.parse_some _ more frame found, List.append_assoc]
  rfl

theorem parse_stuck (stream header body : List Item) (frames : List Frame) (head : Head)
    (consumed : format.Consumed stream frames) (length : header.length = format.headSize)
    (accepted : format.head header = some (head, body.length)) (refused : format.frame head body = none) :
    format.parse (stream ++ header ++ body) = frames := by
  have ended := format.next_headed header length head body.length accepted body [] rfl
  rw [refused, Option.map_none, List.append_nil] at ended
  rw [List.append_assoc, consumed, format.parse_none _ ended, List.append_nil]

end FrameStream
