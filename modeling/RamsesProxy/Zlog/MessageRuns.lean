import RamsesProxy.Zlog.MessageText

set_option autoImplicit false

namespace Zlog

open CText

structure Pad.Ready (pad : Pad) (preLimit outLimit : Option Nat) (mark : Bytes) : Prop where
  pre : ∃ whole, pad.pre.Holds whole
  preLimited : pad.pre.limit = preLimit
  preMarked : pad.pre.truncateStr = mark
  out : ∃ whole, pad.out.Holds whole
  outLimited : pad.out.limit = outLimit

def Pad.cut (pad : Pad) : Bytes → Bytes := Bounded.shown pad.pre.limit pad.pre.truncateStr

def Spec.width (spec : Spec) : Nat := (spec.adjust.map Adjust.minWidth).getD 0

def Conversion.Usable (levels : LevelList) (mdc : Mdc) (request : Request) : Conversion → Prop
  | .mdc mdcKey => ∀ kv, mdc.getKv mdcKey = some kv → kv.valueLen ≤ 1025
  | .srcfileNeat => request.file ≠ none
  | .srcfunc => request.file ≠ none → request.func ≠ none
  | .levelLowercase => levels.get request.level ≠ none
  | .levelUppercase => levels.get request.level ≠ none
  | _ => True

section Gen

variable {Tm : Type} (libc : Libc Tm) (levels : LevelList) (mdc : Mdc) (fmts : List Bytes)

theorem render_same (event next : Event Tm) (same : event.SameCall next) (moment : Moment) (conversion : Conversion) :
    conversion.render libc levels mdc next moment = conversion.render libc levels mdc event moment := by
  cases conversion <;> simp only [Conversion.render, same.request, same.hostName, same.tidStr, same.tidHexStr]

theorem writes_total (answers : SpecAnswers) (event : Event Tm) (count : event.timeCaches.length = fmts.length) (conversion : Conversion)
    (indexed : conversion.Indexed fmts) (usable : conversion.Usable levels mdc event.request) :
    ∃ next ops, conversion.writes libc levels mdc answers event = some (next, ops) := by
  cases conversion with
  | time timeFmt index =>
      have inside : index < ((event.fetchTime answers.now).fetchLocal libc).timeCaches.length := by
        have same : ((event.fetchTime answers.now).fetchLocal libc).timeCaches = event.timeCaches := by
          rw [Event.fetchLocal, Event.fetchTime]
          split <;> split <;> rfl
        rw [same, count]
        exact (List.getElem?_eq_some_iff.mp indexed).1
      obtain ⟨cache, found⟩ : ∃ cache, ((event.fetchTime answers.now).fetchLocal libc).timeCaches[index]? = some cache :=
        ⟨_, List.getElem?_eq_getElem inside⟩
      obtain ⟨fetched, done⟩ : ∃ fetched, ((event.fetchTime answers.now).fetchLocal libc).fetchCache libc timeFmt index = some fetched := by
        rw [Event.fetchCache, found]
        by_cases stale : cache.sec ≠ ((event.fetchTime answers.now).fetchLocal libc).stampSec
        · exact ⟨_, if_pos stale⟩
        · exact ⟨_, if_neg stale⟩
      exact ⟨fetched.1, [.append fetched.2], by rw [Conversion.writes, done]; rfl⟩
  | mdc mdcKey =>
      rw [Conversion.writes]
      cases found : mdc.getKv mdcKey with
      | none => exact ⟨event, [], rfl⟩
      | some kv => exact ⟨event, _, if_pos (usable kv found)⟩
  | srcfileNeat =>
      obtain ⟨file, found⟩ := Option.ne_none_iff_exists'.mp usable
      exact ⟨event, _, by rw [Conversion.writes, found]; rfl⟩
  | srcfunc =>
      rw [Conversion.writes]
      cases found : event.request.file with
      | none => exact ⟨event, _, rfl⟩
      | some file =>
          obtain ⟨func, named⟩ := Option.ne_none_iff_exists'.mp (usable (by rw [found]; simp))
          exact ⟨event, _, by rw [named]; rfl⟩
  | levelLowercase =>
      obtain ⟨name, found⟩ := Option.ne_none_iff_exists'.mp usable
      exact ⟨event, _, by rw [Conversion.writes, found]; rfl⟩
  | levelUppercase =>
      obtain ⟨name, found⟩ := Option.ne_none_iff_exists'.mp usable
      exact ⟨event, _, by rw [Conversion.writes, found]; rfl⟩
  | _ => exact ⟨_, _, rfl⟩

structure Generated (event next : Event Tm) (pad after : Pad) (whole : Bytes) (spec : Spec) (rc : Rc) : Prop where
  cached : next.Cached libc fmts
  same : event.SameCall next
  earlier : ∀ moment, next.Settled moment → event.Settled moment
  ready : after.Ready pad.pre.limit pad.out.limit pad.pre.truncateStr
  text : ∀ moment, next.Settled moment →
    spec.render libc levels mdc event moment pad.cut = none ∧ rc = .fail ∨
      ∃ text, spec.render libc levels mdc event moment pad.cut = some text ∧ after.out.Holds (whole ++ text) ∧
        (rc = .success ↔ text = [] ∨ Bounded.Fits pad.out.limit (whole ++ text).length)

theorem own_moment (event : Event Tm) : event.Settled ⟨event.stampSec, event.stampUsec, event.pid⟩ :=
  ⟨fun _ => ⟨rfl, rfl⟩, fun _ => rfl⟩

section Spec

variable (answers : SpecAnswers) (grants : ∀ count, answers.grants count = true) (adjustGrant : answers.adjustGrant = true)
  (event next : Event Tm) (spec : Spec) (ops : List Buf.Op)
  (wrote : spec.conversion.writes libc levels mdc answers event = some (next, ops))
  (written : Written libc levels mdc fmts event next spec.conversion ops) (pad : Pad) (whole : Bytes)
  (ready : pad.Ready pad.pre.limit pad.out.limit pad.pre.truncateStr) (holds : pad.out.Holds whole)
  (short : ∀ moment text, moment.pid < 2 ^ 31 → spec.conversion.render libc levels mdc event moment = some text →
    text.length + spec.width ≤ 2 ^ 31)
  (space : whole.length + 2 ^ 31 ≤ 2 ^ 60)

include written short in
theorem asked_short (plain : ∀ op ∈ ops, op ≠ .restart ∧ op ≠ .vprintf none) : (ops.flatMap Buf.Op.text).length + spec.width ≤ 2 ^ 31 := by
  cases written.text _ (own_moment next) with
  | inl refused => exact absurd rfl (plain _ (refused.1 ▸ List.mem_cons_self)).2
  | inr shown => exact short _ _ written.cached.int shown.2

theorem perform_all_refused (count : Nat) (buf : Buf) : buf.performAll answers.grants count [.vprintf none] = some (buf, .fail) := rfl

include wrote written ready

theorem refused_generated (refused : ops = [.vprintf none]) :
    ∃ after rc, spec.gen libc levels mdc answers event pad = some (next, after, rc) ∧
      Generated libc levels mdc fmts event next pad after whole spec rc := by
  subst refused
  have unformatted : ∀ moment, next.Settled moment → spec.render libc levels mdc event moment pad.cut = none := by
    intro moment settled
    cases written.text moment settled with
    | inl none => rw [Spec.render, none.2, Option.map_none]
    | inr plain => exact absurd rfl (plain.1 _ List.mem_cons_self).2
  cases adjusts : spec.adjust with
  | none =>
      refine ⟨pad, .fail, ?_, written.cached, written.same, written.earlier, ready,
        fun moment settled => .inl ⟨unformatted moment settled, rfl⟩⟩
      simp only [Spec.gen, wrote, adjusts, Option.bind_eq_bind, Option.bind_some, perform_all_refused]
  | some adjust =>
      obtain ⟨old, oldHolds⟩ := ready.pre
      refine ⟨{ pad with pre := pad.pre.restart }, .fail, ?_, written.cached, written.same, written.earlier, ?_,
        fun moment settled => .inl ⟨unformatted moment settled, rfl⟩⟩
      · simp only [Spec.gen, wrote, adjusts, Option.bind_eq_bind, Option.bind_some, perform_all_refused, if_true]
      · exact ⟨⟨[], Buf.restart_holds pad.pre old oldHolds⟩, rfl, rfl, ready.out, rfl⟩

include holds grants short space

theorem direct_generated (direct : spec.adjust = none) (plain : ∀ op ∈ ops, op ≠ .restart ∧ op ≠ .vprintf none) :
    ∃ after rc, spec.gen libc levels mdc answers event pad = some (next, after, rc) ∧
      Generated libc levels mdc fmts event next pad after whole spec rc := by
  have asked := asked_short libc levels mdc fmts event next spec ops written short plain
  obtain ⟨out, rc, performed, all⟩ := Buf.perform_all_wrote answers.grants grants ops plain 0 pad.out whole holds (by omega)
  refine ⟨{ pad with out := out }, rc, ?_, written.cached, written.same, written.earlier, ?_, fun moment settled => ?_⟩
  · simp only [Spec.gen, wrote, direct, Option.bind_eq_bind, Option.bind_some, performed]
  · exact ⟨ready.pre, rfl, rfl, ⟨_, all.holds⟩, Buf.same_limit pad.out out all.conf⟩
  · cases written.text moment settled with
    | inl refused => exact absurd rfl (plain _ (refused.1 ▸ List.mem_cons_self)).2
    | inr shown =>
        refine .inr ⟨ops.flatMap Buf.Op.text, ?_, all.holds, all.success⟩
        rw [Spec.render, shown.2, Option.map_some, direct]

include adjustGrant

theorem adjusted_generated (adjust : Adjust) (adjusts : spec.adjust = some adjust)
    (plain : ∀ op ∈ ops, op ≠ .restart ∧ op ≠ .vprintf none) :
    ∃ after rc, spec.gen libc levels mdc answers event pad = some (next, after, rc) ∧
      Generated libc levels mdc fmts event next pad after whole spec rc := by
  obtain ⟨old, oldHolds⟩ := ready.pre
  have asked := asked_short libc levels mdc fmts event next spec ops written short plain
  obtain ⟨pre, first, performed, all⟩ := Buf.perform_all_wrote answers.grants grants ops plain 0 pad.pre.restart []
    (Buf.restart_holds pad.pre old oldHolds) (by rw [List.length_nil]; omega)
  have limited : pre.limit = pad.pre.limit := Buf.same_limit pad.pre.restart pre all.conf
  have shown : pre.content.getD [] = pad.cut (ops.flatMap Buf.Op.text) := by
    have text := all.holds.shows.shown
    rw [limited, all.conf.mark, List.nil_append] at text
    exact text
  have padded := Buf.adjusted_length adjust.leftAdjust adjust.minWidth adjust.maxWidth (pre.content.getD [])
  have cut := Bounded.shown_length_le pad.pre.limit pad.pre.truncateStr (ops.flatMap Buf.Op.text)
  have width : spec.width = adjust.minWidth := by
    rw [Spec.width, adjusts]
    rfl
  have total : whole.length + (Buf.adjusted adjust.leftAdjust adjust.minWidth adjust.maxWidth (pre.content.getD [])).length ≤ 2 ^ 60 := by
    rw [shown] at padded ⊢
    rw [Pad.cut] at padded ⊢
    omega
  obtain ⟨out, rc, put, last⟩ := Buf.write_wrote pad.out whole holds
    (.adjustAppend (pre.content.getD []) adjust.leftAdjust adjust.minWidth adjust.maxWidth) (by simp) (by simp) total
  refine ⟨⟨pre, out⟩, rc, ?_, written.cached, written.same, written.earlier, ?_, fun moment settled => ?_⟩
  · simp only [Spec.gen, wrote, adjusts, Option.bind_eq_bind, Option.bind_some, performed, if_neg all.done, adjustGrant, put]
  · exact ⟨⟨_, all.holds⟩, limited, all.conf.mark, ⟨_, last.holds⟩, Buf.same_limit pad.out out last.conf⟩
  · cases written.text moment settled with
    | inl refused => exact absurd rfl (plain _ (refused.1 ▸ List.mem_cons_self)).2
    | inr rendered =>
        refine .inr ⟨_, ?_, last.holds, last.success⟩
        rw [Spec.render, rendered.2, Option.map_some, adjusts, Buf.Op.text, shown]

theorem spec_generated :
    ∃ after rc, spec.gen libc levels mdc answers event pad = some (next, after, rc) ∧
      Generated libc levels mdc fmts event next pad after whole spec rc := by
  cases written.text _ (own_moment next) with
  | inl refused => exact refused_generated libc levels mdc fmts answers event next spec ops wrote written pad whole ready refused.1
  | inr shown =>
      cases adjusts : spec.adjust with
      | none =>
          exact direct_generated libc levels mdc fmts answers grants event next spec ops wrote written pad whole ready
            holds short space adjusts shown.1
      | some adjust =>
          exact adjusted_generated libc levels mdc fmts answers grants adjustGrant event next spec ops wrote written pad
            whole ready holds short space adjust adjusts shown.1

end Spec

-- What a spec can count on. Its text is no longer than vsnprintf could say.
structure Fair (event : Event Tm) (item : Spec × SpecAnswers) : Prop where
  real : item.2.Real
  grants : ∀ count, item.2.grants count = true
  adjustGrant : item.2.adjustGrant = true
  indexed : item.1.conversion.Indexed fmts
  usable : item.1.conversion.Usable levels mdc event.request
  bounded : ∀ hexBuf, event.request.usrmsg = .hex hexBuf → hexBuf.length < 2 ^ 64
  short : ∀ moment text, moment.pid < 2 ^ 31 → item.1.conversion.render libc levels mdc event moment = some text →
    text.length + item.1.width ≤ 2 ^ 31

theorem fair_same (event next : Event Tm) (same : event.SameCall next) (item : Spec × SpecAnswers)
    (fair : Fair libc levels mdc fmts event item) : Fair libc levels mdc fmts next item := by
  refine ⟨fair.real, fair.grants, fair.adjustGrant, fair.indexed, ?_, ?_, fun moment text int rendered => ?_⟩
  · rw [same.request]
    exact fair.usable
  · rw [same.request]
    exact fair.bounded
  · rw [render_same libc levels mdc event next same] at rendered
    exact fair.short moment text int rendered

theorem render_short (event : Event Tm) (moment : Moment) (limit : Option Nat) (mark text : Bytes) (spec : Spec)
    (short : ∀ text, spec.conversion.render libc levels mdc event moment = some text → text.length + spec.width ≤ 2 ^ 31)
    (rendered : spec.render libc levels mdc event moment (Bounded.shown limit mark) = some text) : text.length ≤ 2 ^ 31 := by
  obtain ⟨whole, meant, same⟩ := Option.map_eq_some_iff.mp rendered
  have asked := short whole meant
  cases adjusts : spec.adjust with
  | none =>
      rw [adjusts] at same
      rw [← same]
      dsimp only
      omega
  | some adjust =>
      have cut := Bounded.shown_length_le limit mark whole
      have padded := Buf.adjusted_length adjust.leftAdjust adjust.minWidth adjust.maxWidth (Bounded.shown limit mark whole)
      rw [Spec.width, adjusts, Option.map_some, Option.getD_some] at asked
      rw [adjusts] at same
      rw [← same]
      dsimp only
      omega

structure GeneratedAll (event next : Event Tm) (pad after : Pad) (whole : Bytes) (specs : List Spec) (ok : Bool) : Prop where
  cached : next.Cached libc fmts
  same : event.SameCall next
  earlier : ∀ moment, next.Settled moment → event.Settled moment
  ready : after.Ready pad.pre.limit pad.out.limit pad.pre.truncateStr
  through : ∀ moment, next.Settled moment → ok = true →
    ∃ text, renderAll libc levels mdc event moment pad.cut specs = some text ∧
      Bounded.Fits pad.out.limit (whole ++ text).length ∧ after.out.Holds (whole ++ text)
  stopped : ∀ moment, next.Settled moment → ok = false →
    ∀ text, renderAll libc levels mdc event moment pad.cut specs = some text →
      ¬ Bounded.Fits pad.out.limit (whole ++ text).length

theorem render_all_same (event next : Event Tm) (same : event.SameCall next) (moment : Moment) (cut : Bytes → Bytes) (specs : List Spec) :
    renderAll libc levels mdc next moment cut specs = renderAll libc levels mdc event moment cut specs := by
  induction specs with
  | nil => rfl
  | cons spec rest ih => rw [renderAll, renderAll, ih, Spec.render, Spec.render, render_same libc levels mdc event next same]

theorem render_all_cons (event : Event Tm) (moment : Moment) (cut : Bytes → Bytes) (text : Bytes) (spec : Spec) (rest : List Spec)
    (rendered : renderAll libc levels mdc event moment cut (spec :: rest) = some text) :
    ∃ first later, spec.render libc levels mdc event moment cut = some first ∧
      renderAll libc levels mdc event moment cut rest = some later ∧ text = first ++ later := by
  obtain ⟨first, here, others⟩ := Option.bind_eq_some_iff.mp rendered
  obtain ⟨later, there, joined⟩ := Option.map_eq_some_iff.mp others
  exact ⟨first, later, here, there, joined.symm⟩

theorem ready_cut (pad : Pad) (preLimit outLimit : Option Nat) (mark : Bytes) (ready : pad.Ready preLimit outLimit mark) :
    pad.cut = Bounded.shown preLimit mark := by
  rw [Pad.cut, ready.preLimited, ready.preMarked]

theorem holds_unique (buf : Buf) (left right : Bytes) (leftHolds : buf.Holds left) (rightHolds : buf.Holds right)
    (leftFits : Bounded.Fits buf.limit left.length) (rightFits : Bounded.Fits buf.limit right.length) : left = right := by
  rw [← Bounded.shown_fits buf.limit buf.truncateStr left leftFits, ← leftHolds.shows.shown, rightHolds.shows.shown]
  exact Bounded.shown_fits buf.limit buf.truncateStr right rightFits

theorem generated_through (event next : Event Tm) (pad after : Pad) (whole : Bytes) (spec : Spec)
    (fits : Bounded.Fits pad.out.limit whole.length) (one : Generated libc levels mdc fmts event next pad after whole spec .success) :
    ∃ text, after.out.Holds (whole ++ text) ∧ Bounded.Fits pad.out.limit (whole ++ text).length ∧
      ∀ moment, next.Settled moment → spec.render libc levels mdc event moment pad.cut = some text := by
  have each : ∀ moment, next.Settled moment → ∃ text,
      spec.render libc levels mdc event moment pad.cut = some text ∧ after.out.Holds (whole ++ text) ∧
        Bounded.Fits pad.out.limit (whole ++ text).length := by
    intro moment settled
    cases one.text moment settled with
    | inl refused => cases refused.2
    | inr shown =>
        obtain ⟨text, rendered, held, success⟩ := shown
        refine ⟨text, rendered, held, ?_⟩
        cases success.mp rfl with
        | inl none =>
            rw [none, List.append_nil]
            exact fits
        | inr fits => exact fits
  obtain ⟨text, _, held, textFits⟩ := each _ (own_moment next)
  refine ⟨text, held, textFits, fun moment settled => ?_⟩
  obtain ⟨other, rendered, otherHeld, otherFits⟩ := each moment settled
  have limited := one.ready.outLimited
  have same := holds_unique after.out _ _ held otherHeld (by rw [limited]; exact textFits) (by rw [limited]; exact otherFits)
  rw [rendered, List.append_cancel_left same]

theorem generated_stops (event next : Event Tm) (pad after : Pad) (whole : Bytes) (spec : Spec) (rest : List Spec)
    (rc : Rc) (went : rc ≠ .success)
    (one : Generated libc levels mdc fmts event next pad after whole spec rc) :
    GeneratedAll libc levels mdc fmts event next pad after whole (spec :: rest) false := by
  refine ⟨one.cached, one.same, one.earlier, one.ready, by simp, fun moment settled _ text rendered fits => ?_⟩
  obtain ⟨first, later, here, _, rfl⟩ := render_all_cons libc levels mdc event moment _ text spec rest rendered
  rw [← List.append_assoc] at fits
  cases one.text moment settled with
  | inl refused =>
      rw [here] at refused
      cases refused.1
  | inr shown =>
      obtain ⟨other, same, _, success⟩ := shown
      rw [here] at same
      cases same
      exact went (success.mpr (.inr (Bounded.fits_front pad.out.limit _ _ fits)))

theorem gen_all_generated (items : List (Spec × SpecAnswers)) (event : Event Tm) (cached : event.Cached libc fmts)
    (pad : Pad) (whole : Bytes)
    (fair : ∀ item ∈ items, Fair libc levels mdc fmts event item) (ready : pad.Ready pad.pre.limit pad.out.limit pad.pre.truncateStr)
    (holds : pad.out.Holds whole) (fits : Bounded.Fits pad.out.limit whole.length) (space : whole.length + items.length * 2 ^ 31 ≤ 2 ^ 60) :
    ∃ next after ok, genAll libc levels mdc items event pad = some (next, after, ok) ∧
      GeneratedAll libc levels mdc fmts event next pad after whole (items.map Prod.fst) ok := by
  induction items generalizing event pad whole with
  | nil =>
      refine ⟨event, pad, true, rfl, cached, same_call_refl event, fun _ settled => settled, ready,
        fun moment _ _ => ⟨[], rfl, ?_, ?_⟩, by simp⟩
      · rw [List.append_nil]
        exact fits
      · rw [List.append_nil]
        exact holds
  | cons item rest ih =>
      obtain ⟨spec, answers⟩ := item
      have here := fair (spec, answers) List.mem_cons_self
      obtain ⟨middle, ops, wrote⟩ := writes_total libc levels mdc fmts answers event cached.count spec.conversion here.indexed here.usable
      have written := writes_written libc levels mdc fmts answers event middle cached here.real spec.conversion ops
        here.indexed here.bounded wrote
      rw [List.length_cons] at space
      obtain ⟨between, rc, generated, one⟩ :=
        spec_generated libc levels mdc fmts answers here.grants here.adjustGrant event middle spec ops wrote written pad
          whole ready holds here.short (by omega)
      by_cases went : rc = .success
      · subst went
        obtain ⟨first, held, firstFits, rendered⟩ := generated_through libc levels mdc fmts event middle pad between whole spec fits one
        have fairRest : ∀ item ∈ rest, Fair libc levels mdc fmts middle item := fun item member =>
          fair_same libc levels mdc fmts event middle one.same item (fair item (List.mem_cons_of_mem _ member))
        have firstShort := render_short libc levels mdc event _ _ _ first spec (fun text => here.short _ text one.cached.int)
          (rendered _ (own_moment middle))
        obtain ⟨next, after, ok, continued, all⟩ := ih middle one.cached between (whole ++ first) fairRest
          ⟨one.ready.pre, rfl, rfl, one.ready.out, rfl⟩ held (by rw [one.ready.outLimited]; exact firstFits)
          (by rw [List.length_append]; omega)
        have sameCut : between.cut = pad.cut := ready_cut between _ _ _ one.ready
        obtain ⟨_, preLimited, preMarked, _, outLimited⟩ := one.ready
        have joins : ∀ moment, next.Settled moment → ∀ later,
            renderAll libc levels mdc middle moment between.cut (rest.map Prod.fst) = some later →
              renderAll libc levels mdc event moment pad.cut (spec :: rest.map Prod.fst) = some (first ++ later) := by
          intro moment settled later there
          rw [sameCut, render_all_same libc levels mdc event middle one.same] at there
          rw [renderAll, rendered moment (all.earlier moment settled), there]
          rfl
        refine ⟨next, after, ok, ?_, all.cached, ?_, ?_, ?_, ?_, ?_⟩
        · simp only [genAll, generated, Option.bind_eq_bind, Option.bind_some, if_true, continued]
        · exact ⟨all.same.request.trans one.same.request, all.same.hostName.trans one.same.hostName, all.same.tidStr.trans one.same.tidStr,
            all.same.tidHexStr.trans one.same.tidHexStr⟩
        · exact fun moment settled => one.earlier moment (all.earlier moment settled)
        · rw [← preLimited, ← outLimited, ← preMarked]
          exact all.ready
        · intro moment settled through
          obtain ⟨later, there, laterFits, laterHeld⟩ := all.through moment settled through
          refine ⟨first ++ later, joins moment settled later there, ?_, ?_⟩
          · rw [← List.append_assoc, ← outLimited]
            exact laterFits
          · rw [← List.append_assoc]
            exact laterHeld
        · intro moment settled stopped text joined
          obtain ⟨other, later, here, there, rfl⟩ := render_all_cons libc levels mdc event moment _ text spec _ joined
          rw [rendered moment (all.earlier moment settled)] at here
          cases here
          rw [← List.append_assoc, ← outLimited]
          apply all.stopped moment settled stopped later
          rw [sameCut, render_all_same libc levels mdc event middle one.same]
          exact there
      · refine ⟨middle, between, false, ?_, generated_stops libc levels mdc fmts event middle pad between whole spec _ rc went one⟩
        simp only [genAll, generated, Option.bind_eq_bind, Option.bind_some, if_neg went]

end Gen

def Target.limit (bufSizeMax : Nat) : Target → Option Nat
  | .msg => if bufSizeMax = 0 then none else some (bufSizeMax - 1)
  | _ => some 1024

def Target.mark : Target → Bytes
  | .msg => ascii "...\n"
  | _ => []

def Target.cut (bufSizeMax : Nat) (target : Target) : Bytes → Bytes := Bounded.shown (target.limit bufSizeMax) target.mark

section Plain

variable {Tm : Type} (libc : Libc Tm) (levels : LevelList) (mdc : Mdc) (bufSizeMax : Nat) (event : Event Tm) (moment : Moment)
  (gen : Target × List (Spec × SpecAnswers))

def plain : Option Bytes :=
  (renderAll libc levels mdc event moment id (gen.2.map Prod.fst)).bind (Bounded.kept (gen.1.limit bufSizeMax))

def squeezed : Option Bytes :=
  (renderAll libc levels mdc event moment (gen.1.cut bufSizeMax) (gen.2.map Prod.fst)).bind (Bounded.kept (gen.1.limit bufSizeMax))

-- The texts that are adjusted fit in the buffer they are first written to.
def Roomy : Prop :=
  ∀ item ∈ gen.2, item.1.adjust ≠ none → ∀ text, item.1.conversion.render libc levels mdc event moment = some text →
    Bounded.Fits (gen.1.limit bufSizeMax) text.length

theorem squeezed_plain (roomy : Roomy libc levels mdc bufSizeMax event moment gen) :
    squeezed libc levels mdc bufSizeMax event moment gen = plain libc levels mdc bufSizeMax event moment gen := by
  obtain ⟨target, items⟩ := gen
  have same : renderAll libc levels mdc event moment (target.cut bufSizeMax) (items.map Prod.fst) =
      renderAll libc levels mdc event moment id (items.map Prod.fst) := by
    induction items with
    | nil => rfl
    | cons item rest ih =>
        have later := ih fun other member => roomy other (List.mem_cons_of_mem _ member)
        have here : item.1.render libc levels mdc event moment (target.cut bufSizeMax) = item.1.render libc levels mdc event moment id := by
          rw [Spec.render, Spec.render]
          cases meant : item.1.conversion.render libc levels mdc event moment with
          | none => rfl
          | some text =>
              cases adjusts : item.1.adjust with
              | none => rfl
              | some adjust =>
                  have fits := roomy item List.mem_cons_self (by simp [adjusts]) text meant
                  have uncut : target.cut bufSizeMax text = text := Bounded.shown_fits _ _ text fits
                  simp only [Option.map_some, uncut, id]
        rw [List.map_cons, renderAll, renderAll, here, later]
  rw [squeezed, plain, same]

end Plain

def genCall (gen : Target × List (Spec × SpecAnswers)) : ThreadCall := .gen gen.1 gen.2

namespace Thread

variable {Tm : Type} (libc : Libc Tm) (levels : LevelList) (fmts : List Bytes) (bufSizeMax : Nat)

structure Sound (thread : Thread Tm) : Prop where
  cached : thread.event.Cached libc fmts
  pads : ∀ target : Target, (thread.pad target).Ready (target.limit bufSizeMax) (target.limit bufSizeMax) target.mark

def Proper (thread : Thread Tm) : ThreadCall → Prop
  | .gen _ items => items.length ≤ 2 ^ 28 ∧ ∀ item ∈ items, Fair libc levels thread.mdc fmts thread.event item
  | _ => True

theorem set_pad_ready (thread : Thread Tm) (target : Target) (after : Pad)
    (pads : ∀ target : Target, (thread.pad target).Ready (target.limit bufSizeMax) (target.limit bufSizeMax) target.mark)
    (ready : after.Ready (target.limit bufSizeMax) (target.limit bufSizeMax) target.mark) (other : Target) :
    ((thread.setPad target after).pad other).Ready (other.limit bufSizeMax) (other.limit bufSizeMax) other.mark := by
  have msg := pads .msg
  have path := pads .path
  have archive := pads .archivePath
  cases target with
  | msg =>
      cases other with
      | msg => exact ready
      | path => exact path
      | archivePath => exact archive
  | path =>
      cases other with
      | msg => exact msg
      | path => exact ready
      | archivePath => exact ⟨ready.pre, ready.preLimited, ready.preMarked, archive.out, archive.outLimited⟩
  | archivePath =>
      cases other with
      | msg => exact msg
      | path => exact ⟨ready.pre, ready.preLimited, ready.preMarked, path.out, path.outLimited⟩
      | archivePath => exact ready

theorem set_pad_pad (thread : Thread Tm) (target : Target) (after : Pad) : (thread.setPad target after).pad target = after := by
  cases target with
  | msg => rfl
  | path => rfl
  | archivePath => rfl

theorem set_pad_event (thread : Thread Tm) (target : Target) (after : Pad) :
    (thread.setPad target after).event = thread.event ∧ (thread.setPad target after).mdc = thread.mdc := by
  cases target with
  | msg => exact ⟨rfl, rfl⟩
  | path => exact ⟨rfl, rfl⟩
  | archivePath => exact ⟨rfl, rfl⟩

structure Gave (thread next : Thread Tm) (gen : Target × List (Spec × SpecAnswers)) : Prop where
  sound : next.Sound libc fmts bufSizeMax
  mdc : next.mdc = thread.mdc
  same : thread.event.SameCall next.event
  read : thread.event.Read (gen.2.map Prod.snd) next.event
  earlier : ∀ moment, next.event.Settled moment → thread.event.Settled moment
  result : ∀ moment, next.event.Settled moment →
    thread.results libc levels (genCall gen) next = [squeezed libc levels thread.mdc bufSizeMax thread.event moment gen]

theorem gen_gave (thread : Thread Tm) (sound : thread.Sound libc fmts bufSizeMax) (gen : Target × List (Spec × SpecAnswers))
    (proper : thread.Proper libc levels fmts (genCall gen)) :
    ∃ next, thread.step libc levels (genCall gen) = some next ∧ Gave libc levels fmts bufSizeMax thread next gen := by
  obtain ⟨target, items⟩ := gen
  have ready := sound.pads target
  obtain ⟨old, oldHolds⟩ := ready.out
  have restarted := Buf.restart_holds (thread.pad target).out old oldHolds
  obtain ⟨event, after, ok, generated, all⟩ := gen_all_generated libc levels thread.mdc fmts items thread.event sound.cached
    { thread.pad target with out := (thread.pad target).out.restart } [] proper.2
    ⟨ready.pre, rfl, rfl, ⟨[], restarted⟩, rfl⟩ restarted (fun _ _ => Nat.zero_le _) (by
      have few : items.length ≤ 2 ^ 28 := proper.1
      rw [List.length_nil]
      omega)
  have outLimited : (thread.pad target).out.restart.limit = target.limit bufSizeMax := ready.outLimited
  have afterReady := all.ready
  have through := all.through
  have stopped := all.stopped
  have sameCut : Pad.cut { thread.pad target with out := (thread.pad target).out.restart } = target.cut bufSizeMax :=
    ready_cut (thread.pad target) _ _ _ ready
  simp only [ready.preLimited, outLimited, ready.preMarked] at afterReady
  rw [sameCut] at through stopped
  simp only [outLimited] at through stopped
  have called : thread.call libc levels (.gen target items) = some (({ thread with event := event }).setPad target after, ok) := by
    simp only [call, generate, generated, Option.map_some]
  obtain ⟨eventSame, mdcSame⟩ := set_pad_event { thread with event := event } target after
  refine ⟨_, by rw [step, genCall, called]; rfl, ⟨?_, ?_⟩, mdcSame, ?_, ?_, ?_, ?_⟩
  · rw [eventSame]
    exact all.cached
  · exact set_pad_ready bufSizeMax { thread with event := event } target after sound.pads afterReady
  · rw [eventSame]
    exact all.same
  · rw [eventSame]
    exact gen_all_read libc levels thread.mdc items thread.event event _ after ok generated
  · rw [eventSame]
    exact all.earlier
  · rw [eventSame]
    intro moment settled
    have output : thread.results libc levels (genCall (target, items)) (({ thread with event := event }).setPad target after) =
        if ok = true then [after.out.content] else [none] := by
      simp only [results, genCall, set_pad_pad, called]
      cases ok with
      | true => rfl
      | false => rfl
    rw [output, squeezed]
    cases ok with
    | true =>
        obtain ⟨text, rendered, fits, held⟩ := through moment settled rfl
        rw [List.nil_append] at fits held
        have shown := held.shows.shown
        rw [afterReady.outLimited, Bounded.shown_fits _ _ text fits] at shown
        obtain ⟨content, live⟩ := Option.ne_none_iff_exists'.mp held.live
        rw [Buf.text, live, Option.getD_some] at shown
        rw [if_pos rfl, rendered, Option.bind_some, Bounded.kept_fits _ text fits, live, shown]
    | false =>
        rw [if_neg (by decide)]
        cases rendered : renderAll libc levels thread.mdc thread.event moment (target.cut bufSizeMax) (items.map Prod.fst) with
        | none => rfl
        | some text =>
            have tooLong := stopped moment settled rfl text rendered
            rw [List.nil_append] at tooLong
            rw [Option.bind_some, Bounded.kept_over _ text tooLong]

theorem squeezed_same (mdc : Mdc) (event next : Event Tm) (same : event.SameCall next) (moment : Moment) :
    squeezed libc levels mdc bufSizeMax next moment = squeezed libc levels mdc bufSizeMax event moment := by
  funext gen
  rw [squeezed, squeezed, render_all_same libc levels mdc event next same]

theorem gens_gave (gens : List (Target × List (Spec × SpecAnswers))) (thread : Thread Tm) (sound : thread.Sound libc fmts bufSizeMax)
    (proper : ∀ gen ∈ gens, thread.Proper libc levels fmts (genCall gen)) :
    ∃ final, Machine.run (step libc levels) thread (gens.map genCall) = some final ∧
      thread.event.Read (gens.flatMap fun gen => gen.2.map Prod.snd) final.event ∧
      ∀ moment, final.event.Settled moment → thread.event.Settled moment ∧
        Machine.outputs (step libc levels) (results libc levels) thread (gens.map genCall) =
          gens.map (squeezed libc levels thread.mdc bufSizeMax thread.event moment) := by
  induction gens generalizing thread with
  | nil => exact ⟨thread, rfl, read_nothing _ _, fun _ settled => ⟨settled, rfl⟩⟩
  | cons gen rest ih =>
      obtain ⟨next, stepped, gave⟩ := gen_gave libc levels fmts bufSizeMax thread sound gen (proper gen List.mem_cons_self)
      have properRest : ∀ gen ∈ rest, next.Proper libc levels fmts (genCall gen) := by
        intro other member
        obtain ⟨few, fair⟩ := proper other (List.mem_cons_of_mem _ member)
        refine ⟨few, fun item inside => ?_⟩
        rw [gave.mdc]
        exact fair_same libc levels thread.mdc fmts thread.event next.event gave.same item (fair item inside)
      obtain ⟨final, ran, read, shown⟩ := ih next gave.sound properRest
      refine ⟨final, ?_, read_trans _ _ _ _ _ gave.read read, fun moment settled => ?_⟩
      · rw [List.map_cons, Machine.run_cons, stepped]
        exact ran
      · obtain ⟨nextSettled, later⟩ := shown moment settled
        refine ⟨gave.earlier moment nextSettled, ?_⟩
        rw [List.map_cons, Machine.outputs, stepped]
        simp only [gave.result moment nextSettled, later, gave.mdc,
          squeezed_same libc levels bufSizeMax thread.mdc _ _ gave.same, List.map_cons,
          List.singleton_append]

theorem set_event_sound (thread : Thread Tm) (sound : thread.Sound libc fmts bufSizeMax) (request : Request) :
    ({ thread with event := thread.event.set request } : Thread Tm).Sound libc fmts bufSizeMax :=
  ⟨⟨sound.cached.caches, sound.cached.count, sound.cached.locals, sound.cached.pids, fun read => absurd rfl read,
    Nat.two_pow_pos 31⟩, sound.pads⟩

theorem proper_step (thread : Thread Tm) (sound : thread.Sound libc fmts bufSizeMax) (event : ThreadCall)
    (proper : thread.Proper libc levels fmts event) :
    ∃ next, thread.step libc levels event = some next ∧ next.Sound libc fmts bufSizeMax := by
  cases event with
  | gen target items =>
      obtain ⟨next, stepped, gave⟩ := gen_gave libc levels fmts bufSizeMax thread sound (target, items) proper
      exact ⟨next, stepped, gave.sound⟩
  | setEvent request => exact ⟨_, rfl, set_event_sound libc fmts bufSizeMax thread sound request⟩
  | putMdc kvAllocated tabAllocated entryAllocated key value => exact ⟨_, rfl, sound.cached, sound.pads⟩
  | removeMdc key => exact ⟨_, rfl, sound.cached, sound.pads⟩
  | cleanMdc => exact ⟨_, rfl, sound.cached, sound.pads⟩

theorem proper_run (calls : List ThreadCall) (thread : Thread Tm) (sound : thread.Sound libc fmts bufSizeMax)
    (guarded : Machine.Guarded (step libc levels) (Proper libc levels fmts) thread calls) :
    ∃ final, Machine.run (step libc levels) thread calls = some final ∧ final.Sound libc fmts bufSizeMax := by
  induction calls generalizing thread with
  | nil => exact ⟨thread, rfl, sound⟩
  | cons event rest ih =>
      obtain ⟨next, stepped, nextSound⟩ := proper_step libc levels fmts bufSizeMax thread sound event guarded.1
      obtain ⟨final, ran, finalSound⟩ := ih next nextSound (guarded.2 next stepped)
      exact ⟨final, by rw [Machine.run_cons, stepped]; exact ran, finalSound⟩

theorem new_buf_holds (sizeMin sizeMax : Nat) (mark : Bytes) (buf : Buf) (built : Buf.new sizeMin sizeMax mark = some buf)
    (minSmall : sizeMin ≤ 2 ^ 62) (maxSmall : sizeMax ≤ 2 ^ 62) :
    buf.Holds [] ∧ buf.limit = (if sizeMax = 0 then none else some (sizeMax - 1)) ∧ buf.truncateStr = mark := by
  obtain ⟨shows, max, marked⟩ := Buf.new_shows sizeMin sizeMax mark buf built
  have sizes : buf.content ≠ none ∧ buf.sizeReal = sizeMin := by
    unfold Buf.new at built
    split at built
    · cases built
    · split at built
      · cases built
      · split at built
        · cases built
        · cases built
          exact ⟨by simp, rfl⟩
  refine ⟨⟨shows, sizes.1, ?_, ?_⟩, by rw [Buf.limit, max], marked⟩
  · rw [sizes.2]
    exact minSmall
  · rw [max]
    exact maxSmall

theorem new_sound (bufSizeMin : Nat) (hostName tidStr tidHexStr : Bytes) (request : Request) (zeroTm : Tm) (thread : Thread Tm)
    (built : Thread.new bufSizeMin bufSizeMax fmts.length hostName tidStr tidHexStr request zeroTm = some thread)
    (minSmall : bufSizeMin ≤ 2 ^ 62) (maxSmall : bufSizeMax ≤ 2 ^ 62) :
    thread.Sound libc fmts bufSizeMax := by
  obtain ⟨preMsg, preMsgBuilt, built⟩ := Option.bind_eq_some_iff.mp built
  obtain ⟨msg, msgBuilt, built⟩ := Option.bind_eq_some_iff.mp built
  obtain ⟨prePath, prePathBuilt, built⟩ := Option.bind_eq_some_iff.mp built
  obtain ⟨path, pathBuilt, built⟩ := Option.bind_eq_some_iff.mp built
  obtain ⟨archivePath, archivePathBuilt, built⟩ := Option.bind_eq_some_iff.mp built
  cases built
  obtain ⟨preMsgHolds, preMsgLimit, preMsgMark⟩ := new_buf_holds bufSizeMin bufSizeMax _ preMsg preMsgBuilt minSmall maxSmall
  obtain ⟨msgHolds, msgLimit, _⟩ := new_buf_holds bufSizeMin bufSizeMax _ msg msgBuilt minSmall maxSmall
  obtain ⟨prePathHolds, prePathLimit, prePathMark⟩ := new_buf_holds 1025 1025 _ prePath prePathBuilt (by omega) (by omega)
  obtain ⟨pathHolds, pathLimit, _⟩ := new_buf_holds 1025 1025 _ path pathBuilt (by omega) (by omega)
  obtain ⟨archiveHolds, archiveLimit, _⟩ := new_buf_holds 1025 1025 _ archivePath archivePathBuilt (by omega) (by omega)
  refine ⟨⟨?_, ?_, fun read => absurd rfl read, fun read => absurd rfl read, fun read => absurd rfl read,
    Nat.two_pow_pos 31⟩, fun target => ?_⟩
  · intro index cache timeFmt found _ filled
    have zero := List.eq_of_mem_replicate (List.mem_of_getElem? found)
    rw [zero] at filled
    exact absurd rfl filled
  · exact List.length_replicate
  · cases target with
    | msg => exact ⟨⟨_, preMsgHolds⟩, preMsgLimit, preMsgMark, ⟨_, msgHolds⟩, msgLimit⟩
    | path => exact ⟨⟨_, prePathHolds⟩, prePathLimit, prePathMark, ⟨_, pathHolds⟩, pathLimit⟩
    | archivePath => exact ⟨⟨_, prePathHolds⟩, prePathLimit, prePathMark, ⟨_, archiveHolds⟩, archiveLimit⟩

-- The moment of an event that has been set: what it has read of the clock and the pid, and
-- anything it was told where it has read nothing.
theorem moment_told (told : List SpecAnswers) (asked : told ≠ []) (event next : Event Tm) (unread : event.stampSec = 0 ∧ event.pid = 0)
    (read : event.Read told next) :
    ∃ moment, next.Settled moment ∧ (∃ answers ∈ told, answers.now = (moment.sec, moment.usec)) ∧
      ∃ answers ∈ told, answers.pid = moment.pid := by
  obtain ⟨first, rest, rfl⟩ := List.exists_cons_of_ne_nil asked
  obtain ⟨sec, usec, settledTime, toldTime⟩ : ∃ sec usec, (next.stampSec ≠ 0 → sec = next.stampSec ∧ usec = next.stampUsec) ∧
      ∃ answers ∈ first :: rest, answers.now = (sec, usec) := by
    by_cases known : next.stampSec = 0
    · exact ⟨first.now.1, first.now.2, fun wasRead => absurd known wasRead, first, List.mem_cons_self, rfl⟩
    · cases read.time with
      | inl kept => exact absurd (kept.1.trans unread.1) known
      | inr told => exact ⟨next.stampSec, next.stampUsec, fun _ => ⟨rfl, rfl⟩, told⟩
  obtain ⟨pid, settledPid, toldPid⟩ : ∃ pid, (next.pid ≠ 0 → pid = next.pid) ∧ ∃ answers ∈ first :: rest, answers.pid = pid := by
    by_cases known : next.pid = 0
    · exact ⟨first.pid, fun wasRead => absurd known wasRead, first, List.mem_cons_self, rfl⟩
    · cases read.process with
      | inl kept => exact absurd (kept.trans unread.2) known
      | inr told => exact ⟨next.pid, fun _ => rfl, told⟩
  exact ⟨⟨sec, usec, pid⟩, ⟨settledTime, settledPid⟩, toldTime, toldPid⟩

theorem event_shows_one_moment (bufSizeMin : Nat) (hostName tidStr tidHexStr : Bytes) (before : Request) (zeroTm : Tm) (start : Thread Tm)
    (built : Thread.new bufSizeMin bufSizeMax fmts.length hostName tidStr tidHexStr before zeroTm = some start)
    (minSmall : bufSizeMin ≤ 2 ^ 62) (maxSmall : bufSizeMax ≤ 2 ^ 62) (calls : List ThreadCall)
    (guarded : Machine.Guarded (step libc levels) (Proper libc levels fmts) start calls) (request : Request)
    (gens : List (Target × List (Spec × SpecAnswers))) (asked : (gens.flatMap fun gen => gen.2.map Prod.snd) ≠ []) :
    ∃ thread, Machine.run (step libc levels) start calls = some thread ∧
      ((∀ gen ∈ gens, Proper libc levels fmts { thread with event := thread.event.set request } (genCall gen)) →
        ∃ moment final, Machine.run (step libc levels) thread (.setEvent request :: gens.map genCall) = some final ∧
          (∃ answers ∈ gens.flatMap fun gen => gen.2.map Prod.snd, answers.now = (moment.sec, moment.usec)) ∧
          (∃ answers ∈ gens.flatMap fun gen => gen.2.map Prod.snd, answers.pid = moment.pid) ∧
          Machine.outputs (step libc levels) (results libc levels) thread (.setEvent request :: gens.map genCall) =
            gens.map (squeezed libc levels thread.mdc bufSizeMax (thread.event.set request) moment) ∧
          ∀ gen ∈ gens, Roomy libc levels thread.mdc bufSizeMax (thread.event.set request) moment gen →
            squeezed libc levels thread.mdc bufSizeMax (thread.event.set request) moment gen =
              plain libc levels thread.mdc bufSizeMax (thread.event.set request) moment gen) := by
  have startSound := new_sound libc fmts bufSizeMax bufSizeMin hostName tidStr tidHexStr before zeroTm start built minSmall maxSmall
  obtain ⟨thread, ran, sound⟩ := proper_run libc levels fmts bufSizeMax calls start startSound guarded
  refine ⟨thread, ran, fun proper => ?_⟩
  have setSound := set_event_sound libc fmts bufSizeMax thread sound request
  obtain ⟨final, generated, read, shown⟩ := gens_gave libc levels fmts bufSizeMax gens _ setSound proper
  obtain ⟨moment, settled, toldTime, toldPid⟩ := moment_told _ asked _ _ ⟨rfl, rfl⟩ read
  exact ⟨moment, final, generated, toldTime, toldPid, (shown moment settled).2,
    fun gen _ roomy => squeezed_plain libc levels thread.mdc bufSizeMax _ moment gen roomy⟩

def secondsLibc : Libc Nat := ⟨id, fun timeFmt sec => (timeFmt ++ decimal sec).take 100⟩

def answersAt (sec : Nat) : SpecAnswers := ⟨(sec, 5), 7, fun _ => true, true⟩

def smallRequest : Request := ⟨ascii "0123456789", some (ascii "f"), some (ascii "g"), 1, 20, .fmt (some (ascii "hello"))⟩

-- A path and three messages: the second reads the clock too late, the third is cut where it
-- is adjusted, and the last does not fit.
def smallGens : List (Target × List (Spec × SpecAnswers)) :=
  [(.path, [(⟨.time (ascii "t") 0, none⟩, answersAt 10)]),
    (.msg, [(⟨.time (ascii "t") 0, none⟩, answersAt 11), (⟨.usrmsg, some ⟨true, 6, 0⟩⟩, answersAt 12)]),
    (.msg, [(⟨.category, some ⟨true, 0, 8⟩⟩, answersAt 12)]),
    (.msg, [(⟨.usrmsg, none⟩, answersAt 13), (⟨.usrmsg, none⟩, answersAt 14)])]

theorem small_fair (event : Event Nat) (asked : event.request = smallRequest) (mdc : Mdc) (spec : Spec) (sec : Nat) (later : sec ≠ 0)
    (indexed : spec.conversion.Indexed [ascii "t"]) (usable : spec.conversion.Usable LevelList.empty mdc smallRequest)
    (short : ∀ moment text, spec.conversion.render secondsLibc LevelList.empty mdc event moment = some text →
      text.length + spec.width ≤ 200) :
    Fair secondsLibc LevelList.empty mdc [ascii "t"] event (spec, answersAt sec) := by
  refine ⟨⟨later, show 7 ≠ 0 by decide, show 7 < 2 ^ 31 by decide⟩, fun _ => rfl, rfl, indexed, ?_, ?_, fun moment text _ rendered => ?_⟩
  · rw [asked]
    exact usable
  · rw [asked]
    intro hexBuf shown
    cases shown
  · exact Nat.le_trans (short moment text rendered) (by decide)

theorem small_proper (thread : Thread Nat) (asked : thread.event.request = smallRequest) (gen : Target × List (Spec × SpecAnswers))
    (member : gen ∈ smallGens) : thread.Proper secondsLibc LevelList.empty [ascii "t"] (genCall gen) := by
  have time (sec : Nat) (later : sec ≠ 0) :
      Fair secondsLibc LevelList.empty thread.mdc [ascii "t"] thread.event (⟨.time (ascii "t") 0, none⟩, answersAt sec) := by
    apply small_fair thread.event asked thread.mdc ⟨.time (ascii "t") 0, none⟩ sec later rfl trivial
    intro moment text rendered
    cases rendered
    exact Nat.le_trans (List.length_take_le _ _) (by decide)
  have usrmsg (sec : Nat) (later : sec ≠ 0) (adjust : Option Adjust) (narrow : (⟨.usrmsg, adjust⟩ : Spec).width ≤ 100) :
      Fair secondsLibc LevelList.empty thread.mdc [ascii "t"] thread.event (⟨.usrmsg, adjust⟩, answersAt sec) := by
    apply small_fair thread.event asked thread.mdc ⟨.usrmsg, adjust⟩ sec later trivial trivial
    intro moment text rendered
    rw [Conversion.render, asked] at rendered
    cases rendered
    exact Nat.le_trans (Nat.add_le_add_left narrow _) (by decide)
  have category : Fair secondsLibc LevelList.empty thread.mdc [ascii "t"] thread.event (⟨.category, some ⟨true, 0, 8⟩⟩, answersAt 12) := by
    apply small_fair thread.event asked thread.mdc ⟨.category, some ⟨true, 0, 8⟩⟩ 12 (by decide) trivial trivial
    intro moment text rendered
    rw [Conversion.render, asked] at rendered
    cases rendered
    decide
  simp only [smallGens, List.mem_cons, List.not_mem_nil, or_false] at member
  rcases member with rfl | rfl | rfl | rfl
  · refine ⟨by decide, fun item inside => ?_⟩
    rw [List.mem_singleton.mp inside]
    exact time 10 (by decide)
  · refine ⟨by decide, fun item inside => ?_⟩
    simp only [List.mem_cons, List.not_mem_nil, or_false] at inside
    cases inside with
    | inl first => exact first ▸ time 11 (by decide)
    | inr second => exact second ▸ usrmsg 12 (by decide) _ (by decide)
  · refine ⟨by decide, fun item inside => ?_⟩
    rw [List.mem_singleton.mp inside]
    exact category
  · refine ⟨by decide, fun item inside => ?_⟩
    simp only [List.mem_cons, List.not_mem_nil, or_false] at inside
    cases inside with
    | inl first => exact first ▸ usrmsg 13 (by decide) _ (by decide)
    | inr second => exact second ▸ usrmsg 14 (by decide) _ (by decide)

theorem event_shows_one_moment_small :
    ∃ start moment, Thread.new 4 10 1 [] [] [] smallRequest 0 = some start ∧
      smallGens.map (squeezed secondsLibc LevelList.empty start.mdc 10 (start.event.set smallRequest) moment) =
        [some (ascii "t10"), some (ascii "t10hello "), some (ascii "01234..."), none] := by
  obtain ⟨start, built⟩ : ∃ start, Thread.new 4 10 1 [] [] [] smallRequest 0 = some start := ⟨_, rfl⟩
  obtain ⟨thread, ran, shows⟩ := event_shows_one_moment secondsLibc LevelList.empty [ascii "t"] 10 4 [] [] [] smallRequest 0 start built
    (by decide) (by decide) [] trivial smallRequest smallGens (by decide)
  cases ran
  obtain ⟨moment, _, _, _, _, shown, _⟩ := shows fun gen member => small_proper _ rfl gen member
  refine ⟨start, moment, built, shown.symm.trans ?_⟩
  cases built
  decide

end Thread

end Zlog
