import RamsesProxy.Zlog.BufRuns
import RamsesProxy.Zlog.Message

set_option autoImplicit false

namespace Zlog

open CText

namespace Buf

-- A buffer that has its memory and shows a text. Its sizes are those of memory.
structure Holds (buf : Buf) (whole : Bytes) : Prop where
  shows : Shows buf whole
  live : buf.content ≠ none
  small : buf.sizeReal ≤ 2 ^ 62
  max : buf.sizeMax ≤ 2 ^ 62

theorem shows_more (buf : Buf) (whole more : Bytes) (shows : Shows buf whole) (live : buf.content ≠ none)
    (tooLong : ¬ Bounded.Fits buf.limit whole.length) : Shows buf (whole ++ more) := by
  refine ⟨shows.sound, ?_, fun gone => absurd gone live⟩
  cases fits_or_over buf whole with
  | inl fits => exact absurd fits tooLong
  | inr beyond =>
      have shown := shows.shown
      rw [limit_some buf beyond.1] at shown ⊢
      rw [Bounded.shown_stays buf.truncateStr whole more _ beyond.2]
      exact shown

theorem restart_holds (buf : Buf) (whole : Bytes) (holds : Holds buf whole) : Holds buf.restart [] := by
  refine ⟨restart_shows buf whole holds.shows, ?_, holds.small, holds.max⟩
  rw [restart]
  simpa using holds.live

theorem same_conf_refl (buf : Buf) : SameConf buf buf := ⟨rfl, rfl⟩

theorem same_conf_trans (first second third : Buf) (early : SameConf first second) (late : SameConf second third) : SameConf first third :=
  ⟨late.max.trans early.max, late.mark.trans early.mark⟩

structure AllWrote (buf next : Buf) (whole more : Bytes) (rc : Rc) : Prop where
  conf : SameConf buf next
  holds : Holds next (whole ++ more)
  done : rc ≠ .fail
  success : rc = .success ↔ more = [] ∨ Bounded.Fits buf.limit (whole ++ more).length

theorem holds_length (buf : Buf) (whole : Bytes) (holds : Holds buf whole) : buf.text.length ≤ whole.length := by
  rw [holds.shows.shown]
  exact Bounded.shown_length_le _ _ _

theorem write_wrote (buf : Buf) (whole : Bytes) (holds : Holds buf whole) (op : Op) (writes : op ≠ .restart) (formats : op ≠ .vprintf none)
    (short : whole.length + op.text.length ≤ 2 ^ 60) :
    ∃ next rc, buf.write true op = some (next, rc) ∧ AllWrote buf next whole op.text rc := by
  have small := holds.small
  have sized : Sized buf op := sized_small op buf (by omega)
  obtain ⟨next, rc, done, conf, outcome⟩ :=
    write_shows true op buf whole holds.shows writes formats (fun _ _ gone => absurd gone holds.live) sized
  refine ⟨next, rc, done, ?_⟩
  cases outcome with
  | failed said reason =>
      cases reason with
      | inl refused => cases refused
      | inr gone => exact absurd gone holds.live
  | wrote wrote =>
      have grown := write_small true op buf next rc holds.shows.sound holds.live writes formats done
      have held := holds_length buf whole holds
      have max := holds.max
      refine ⟨conf, ⟨wrote.shows, wrote.live holds.live, by omega, ?_⟩, wrote.done, wrote.success⟩
      rw [conf.max]
      exact max

theorem perform_all_wrote (grants : Nat → Bool) (granted : ∀ count, grants count = true) (ops : List Op)
    (plain : ∀ op ∈ ops, op ≠ .restart ∧ op ≠ .vprintf none) (count : Nat) (buf : Buf) (whole : Bytes) (holds : Holds buf whole)
    (short : whole.length + (ops.flatMap Op.text).length ≤ 2 ^ 60) :
    ∃ next rc, buf.performAll grants count ops = some (next, rc) ∧ AllWrote buf next whole (ops.flatMap Op.text) rc := by
  induction ops generalizing count buf whole with
  | nil =>
      refine ⟨buf, .success, rfl, same_conf_refl buf, ?_, by simp, fun _ => .inl rfl, fun _ => rfl⟩
      rw [List.flatMap_nil, List.append_nil]
      exact holds
  | cons op rest ih =>
      obtain ⟨writes, formats⟩ := plain op List.mem_cons_self
      rw [List.flatMap_cons] at short ⊢
      rw [List.length_append, ← Nat.add_assoc] at short
      obtain ⟨middle, first, performed, wrote⟩ := write_wrote buf whole holds op writes formats (by omega)
      by_cases went : first = .success
      · obtain ⟨next, rc, continued, later⟩ := ih (fun other member => plain other (List.mem_cons_of_mem op member))
          (count + 1) middle _ wrote.holds
          (by rw [List.length_append]; exact short)
        refine ⟨next, rc, ?_, same_conf_trans buf middle next wrote.conf later.conf, ?_, later.done, ?_⟩
        · simp only [performAll, granted, performed, Option.bind_eq_bind, Option.bind_some, if_pos went]
          exact continued
        · rw [← List.append_assoc]
          exact later.holds
        · rw [later.success, same_limit buf middle wrote.conf, ← List.append_assoc]
          constructor
          · intro fits
            cases fits with
            | inl none =>
                rw [none, List.append_nil, List.append_nil]
                exact wrote.success.mp went
            | inr fits => exact .inr fits
          · intro fits
            cases fits with
            | inl none => exact .inl (List.append_eq_nil_iff.mp none).2
            | inr fits => exact .inr fits
      · have refused : ¬ (op.text = [] ∨ Bounded.Fits buf.limit (whole ++ op.text).length) := fun fits => went (wrote.success.mpr fits)
        have tooLong : ¬ Bounded.Fits buf.limit (whole ++ (op.text ++ rest.flatMap Op.text)).length := by
          intro fits
          rw [← List.append_assoc] at fits
          exact refused (.inr (Bounded.fits_front buf.limit _ _ fits))
        refine ⟨middle, first, ?_, wrote.conf, ?_, wrote.done, fun same => absurd same went, fun fits => ?_⟩
        · simp only [performAll, granted, performed, Option.bind_eq_bind, Option.bind_some, if_neg went]
        · rw [← List.append_assoc]
          refine ⟨shows_more middle _ _ wrote.holds.shows wrote.holds.live ?_, wrote.holds.live, wrote.holds.small, wrote.holds.max⟩
          rw [same_limit buf middle wrote.conf]
          exact fun fits => refused (.inr fits)
        · cases fits with
          | inl none => exact absurd (.inl (List.append_eq_nil_iff.mp none).1) refused
          | inr fits => exact absurd fits tooLong

theorem adjusted_length (leftAdjust : Bool) (inWidth outWidth : Nat) (str : Bytes) :
    (adjusted leftAdjust inWidth outWidth str).length ≤ str.length + inWidth := by
  have source : (if outWidth = 0 then str else str.take outWidth).length ≤ str.length := by
    split
    · exact Nat.le_refl _
    · exact List.length_take_le' _ _
  unfold adjusted
  simp only []
  generalize (if outWidth = 0 then str else str.take outWidth) = kept at source ⊢
  split
  · rw [List.length_append, List.length_replicate]
    omega
  · rw [List.length_append, List.length_replicate]
    omega

end Buf

end Zlog
