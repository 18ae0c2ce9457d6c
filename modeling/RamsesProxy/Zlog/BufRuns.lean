import RamsesProxy.Zlog.Buf

set_option autoImplicit false

namespace Zlog

open CText

namespace Buf

def adjusted (leftAdjust : Bool) (inWidth outWidth : Nat) (str : Bytes) : Bytes :=
  let source := if outWidth = 0 then str else str.take outWidth
  let spaces := List.replicate (inWidth - source.length) 32
  if leftAdjust = true then source ++ spaces else spaces ++ source

def Op.text : Op → Bytes
  | .restart => []
  | .append str => str
  | .adjustAppend str leftAdjust inWidth outWidth => adjusted leftAdjust inWidth outWidth str
  | .printfDec32 ui32 width => padded width ui32.toNat
  | .printfDec64 ui64 width => padded width ui64.toNat
  | .printfHex ui32 width => List.replicate (width - (hexadecimal ui32.toNat).length) 48 ++ hexadecimal ui32.toNat
  | .vprintf formatted => formatted.getD []

section Digits

theorem digit_loop_text (base : Nat) (digit : Nat → UInt8) (text : Nat → Bytes) (large : 1 < base)
    (unfolds : ∀ number, text number = (if number < base then [] else text (number / base)) ++ [digit (number % base)])
    (slots number : Nat) (written : Bytes) (bound : number < base ^ (slots + 1)) :
    digitLoop base digit (slots + 1) number written = some (text number ++ written) := by
  induction slots generalizing number written with
  | zero =>
      have small : number < base := by simpa using bound
      rw [digitLoop, if_pos (Nat.div_eq_of_lt small), unfolds, if_pos small]
      rfl
  | succ slots ih =>
      rw [digitLoop, unfolds]
      by_cases small : number < base
      · rw [if_pos (Nat.div_eq_of_lt small), if_pos small]
        rfl
      · have more : ¬ number / base = 0 := by
          rw [Nat.div_eq_zero_iff]
          omega
        have smaller : number / base < base ^ (slots + 1) := by
          rw [Nat.div_lt_iff_lt_mul (by omega), ← Nat.pow_succ]
          exact bound
        rw [if_neg more, if_neg small, ih (number / base) _ smaller, List.append_assoc]
        rfl

theorem dec_loop (slots number : Nat) (bound : number < 10 ^ (slots + 1)) :
    digitLoop 10 decDigit (slots + 1) number [] = some (decimal number) := by
  have unfolds : ∀ number, decimal number = (if number < 10 then [] else decimal (number / 10)) ++ [decDigit (number % 10)] := by
    intro number
    rw [decDigit, Nat.add_comm]
    exact decimal_eq number
  simpa using digit_loop_text 10 decDigit decimal (by decide) unfolds slots number [] bound

theorem hex_loop (slots number : Nat) (bound : number < 16 ^ (slots + 1)) :
    digitLoop 16 hexDigit (slots + 1) number [] = some (hexadecimal number) := by
  simpa using digit_loop_text 16 hexDigit hexadecimal (by decide) hexadecimal_eq slots number [] bound

end Digits

structure Fills (granted : Bool) (op : Op) (buf : Buf) (result : Option (Buf × Rc)) : Prop where
  filled : ∃ part, (∀ left, left ≤ op.text.length → part left = op.text.take left) ∧
    (result = buf.fill granted op.text part ∧ (∃ str, op = .append str) ∨
      result = buf.fillLive granted op.text part ∧ ∀ str, op ≠ .append str)

theorem zeroed_part (digits : Bytes) (zeroLen left : Nat) :
    (if left ≤ zeroLen then List.replicate left 48 else List.replicate zeroLen 48 ++ digits.take (left - zeroLen)) =
      (List.replicate zeroLen 48 ++ digits).take left := by
  by_cases early : left ≤ zeroLen
  · rw [if_pos early, List.take_append_of_le_length (by simpa using early), List.take_replicate, Nat.min_eq_left early]
  · rw [if_neg early, List.take_append, List.take_replicate, Nat.min_eq_right (by omega), List.length_replicate]

section Writers

variable (granted : Bool) (buf : Buf)

theorem zeroed_fills (op : Op) (digits : Bytes) (width : Nat) (other : ∀ str, op ≠ .append str)
    (shows : op.text = List.replicate (width - digits.length) 48 ++ digits) : Fills granted op buf (buf.zeroed granted digits width) := by
  refine ⟨⟨_, ?_, .inr ⟨by rw [shows]; rfl, other⟩⟩⟩
  intro left _
  rw [shows]
  exact zeroed_part digits (width - digits.length) left

theorem adjust_append_fills (str : Bytes) (leftAdjust : Bool) (inWidth outWidth : Nat) :
    Fills granted (.adjustAppend str leftAdjust inWidth outWidth) buf (buf.adjustAppend granted str leftAdjust inWidth outWidth) := by
  have source : str.take (if outWidth = 0 ∨ str.length < outWidth then str.length else outWidth) =
      if outWidth = 0 then str else str.take outWidth := by
    by_cases unlimited : outWidth = 0
    · simp [unlimited]
    · by_cases short : str.length < outWidth
      · rw [if_pos (.inr short), if_neg unlimited, List.take_length, List.take_of_length_le (Nat.le_of_lt short)]
      · rw [if_neg (by simp [unlimited, short]), if_neg unlimited]
  have within : (if outWidth = 0 ∨ str.length < outWidth then str.length else outWidth) ≤ str.length := by
    split
    · exact Nat.le_refl _
    · omega
  unfold adjustAppend
  simp only []
  generalize (if outWidth = 0 ∨ str.length < outWidth then str.length else outWidth) = sourceLen at source within ⊢
  have spaces : (if inWidth = 0 ∨ inWidth ≤ sourceLen then 0 else inWidth - sourceLen) = inWidth - (str.take sourceLen).length := by
    rw [List.length_take, Nat.min_eq_left within]
    split <;> omega
  have long : (str.take sourceLen).length = sourceLen := by
    rw [List.length_take, Nat.min_eq_left within]
  rw [spaces]
  cases leftAdjust with
  | true =>
      rw [if_pos rfl]
      have shows : (Op.adjustAppend str true inWidth outWidth).text =
          str.take sourceLen ++ List.replicate (inWidth - (str.take sourceLen).length) 32 := by
        rw [Op.text, adjusted, if_pos rfl, ← source]
      refine ⟨⟨_, ?_, .inr ⟨by rw [shows], by simp⟩⟩⟩
      intro left most
      have whole : left ≤ sourceLen + (inWidth - sourceLen) := by simpa [shows, long] using most
      rw [shows, List.take_append, List.take_replicate, List.take_take, long]
      by_cases beyond : sourceLen < left
      · rw [if_pos beyond, Nat.min_eq_right (by omega), Nat.min_eq_left (by omega)]
      · rw [if_neg beyond, Nat.min_eq_left (by omega), Nat.sub_eq_zero_of_le (by omega)]
        simp
  | false =>
      rw [if_neg (by decide)]
      have shows : (Op.adjustAppend str false inWidth outWidth).text =
          List.replicate (inWidth - (str.take sourceLen).length) 32 ++ str.take sourceLen := by
        rw [Op.text, adjusted, if_neg (by decide), ← source]
      refine ⟨⟨_, ?_, .inr ⟨by rw [shows], by simp⟩⟩⟩
      intro left most
      have whole : left ≤ inWidth - sourceLen + sourceLen := by simpa [shows, long] using most
      rw [shows, List.take_append, List.length_replicate, List.take_replicate, List.take_take, long]
      by_cases beyond : inWidth - sourceLen < left
      · rw [if_pos beyond, Nat.min_eq_right (by omega), Nat.min_eq_left (by omega)]
      · rw [if_neg beyond, Nat.min_eq_left (by omega), Nat.sub_eq_zero_of_le (by omega)]
        simp

theorem perform_fills (op : Op) (writes : op ≠ .restart) (formats : op ≠ .vprintf none) :
    Fills granted op buf (buf.perform granted op) := by
  cases op with
  | restart => exact absurd rfl writes
  | append str => exact ⟨⟨_, fun _ _ => rfl, .inl ⟨rfl, str, rfl⟩⟩⟩
  | adjustAppend str leftAdjust inWidth outWidth => exact adjust_append_fills granted buf str leftAdjust inWidth outWidth
  | printfDec32 ui32 width =>
      have bound : ui32.toNat < 10 ^ 11 := Nat.lt_trans ui32.toNat_lt (by decide)
      have digits := dec_loop 10 ui32.toNat bound
      have same : buf.perform granted (.printfDec32 ui32 width) = buf.zeroed granted (decimal ui32.toNat) width := by
        simp only [perform, printfDec32, digits, Option.bind_some]
      rw [same]
      exact zeroed_fills granted buf _ _ width (by simp) (by simp [Op.text, padded])
  | printfDec64 ui64 width =>
      have bound : ui64.toNat < 10 ^ 20 := Nat.lt_trans ui64.toNat_lt (by decide)
      have digits := dec_loop 19 ui64.toNat bound
      have same : buf.perform granted (.printfDec64 ui64 width) = buf.zeroed granted (decimal ui64.toNat) width := by
        simp only [perform, printfDec64]
        by_cases small : ui64.toNat ≤ 4294967295
        · have kept : ui64.toUInt32.toNat = ui64.toNat := by
            rw [UInt64.toNat_toUInt32]
            exact Nat.mod_eq_of_lt (by omega)
          rw [if_pos small, kept, digits, Option.bind_some]
        · rw [if_neg small, digits, Option.bind_some]
      rw [same]
      exact zeroed_fills granted buf _ _ width (by simp) (by simp [Op.text, padded])
  | printfHex ui32 width =>
      have bound : ui32.toNat < 16 ^ 11 := Nat.lt_trans ui32.toNat_lt (by decide)
      have digits := hex_loop 10 ui32.toNat bound
      have same : buf.perform granted (.printfHex ui32 width) = buf.zeroed granted (hexadecimal ui32.toNat) width := by
        simp only [perform, printfHex, digits, Option.bind_some]
      rw [same]
      exact zeroed_fills granted buf _ _ width (by simp) rfl
  | vprintf formatted =>
      cases formatted with
      | none => exact absurd rfl formats
      | some text => exact ⟨⟨_, fun _ _ => rfl, .inr ⟨rfl, by simp⟩⟩⟩

end Writers

def limit (buf : Buf) : Option Nat := if buf.sizeMax = 0 then none else some (buf.sizeMax - 1)

def text (buf : Buf) : Bytes := buf.content.getD []

-- There is always room for the terminator, and a buffer that has lost its text can still grow.
structure Sound (buf : Buf) : Prop where
  inside : buf.text.length < buf.sizeReal
  capped : buf.sizeMax ≠ 0 → buf.sizeReal ≤ buf.sizeMax
  lostOpen : buf.content = none → buf.sizeMax = 0 ∨ buf.sizeReal < buf.sizeMax

inductive Filled (granted : Bool) (buf : Buf) (whole : Bytes) : Option (Buf × Rc) → Prop where
  | roomy (fits : whole.length ≤ buf.room) : Filled granted buf whole (some (buf.extend whole, .success))
  | refused (needed : buf.room < whole.length) (failed : granted = false) (more : buf.sizeMax = 0 ∨ buf.sizeReal < buf.sizeMax) :
      Filled granted buf whole (some ({ buf with content := none }, .fail))
  | grown (size : Nat) (needed : buf.room < whole.length) (works : granted = true) (fits : buf.text.length + whole.length < size)
      (larger : buf.sizeReal + (whole.length - buf.room) ≤ size) (smaller : size ≤ buf.sizeReal + 2 * (whole.length - buf.room))
      (more : buf.sizeMax = 0 ∨ buf.sizeReal < buf.sizeMax) (capped : buf.sizeMax ≠ 0 → size ≤ buf.sizeMax) :
      Filled granted buf whole (some ({ buf with content := some (buf.text ++ whole), sizeReal := size }, .success))
  | full (content : Bytes) (live : buf.content = some content) (limited : buf.sizeMax ≠ 0)
      (tooLong : buf.sizeMax - 1 < content.length + whole.length) :
      Filled granted buf whole (some ({ buf with
        content := some (Bounded.marked buf.truncateStr (content ++ whole.take (buf.sizeMax - 1 - content.length)))
        sizeReal := buf.sizeMax }, .truncated))
  | lost (gone : buf.content = none) (works : granted = true) (limited : buf.sizeMax ≠ 0)
      (tooLong : buf.sizeMax < buf.sizeReal + whole.length) :
      Filled granted buf whole (if whole.length < buf.sizeMax - 1 then none else some ({ buf with
        content := some (Bounded.marked buf.truncateStr (whole.take (buf.sizeMax - 1)))
        sizeReal := buf.sizeMax }, .truncated))

section Fill

variable (granted : Bool) (buf : Buf) (sound : Sound buf) (whole : Bytes) (part : Nat → Bytes)

theorem truncate_eq (buf : Buf) : buf.truncate = { buf with content := buf.content.map (Bounded.marked buf.truncateStr) } := by
  by_cases unmarked : buf.truncateStr = []
  · have same : Bounded.marked buf.truncateStr = id := by
      funext text
      rw [unmarked]
      exact Bounded.marked_nil text
    rw [truncate, if_pos unmarked, same, Option.map_id]
    rfl
  · rw [truncate, if_neg unmarked]

theorem room_live (content : Bytes) (live : buf.content = some content) : buf.room = buf.sizeReal - 1 - content.length := by
  rw [room, live]

theorem room_lost (gone : buf.content = none) : buf.room = 0 := by
  rw [room, gone]

theorem text_live (content : Bytes) (live : buf.content = some content) : buf.text = content := by
  rw [text, live, Option.getD_some]

theorem text_lost (gone : buf.content = none) : buf.text = [] := by
  rw [text, gone, Option.getD_none]

include sound

theorem filled_at_max (needed : buf.room < whole.length) (fronts : ∀ left, left ≤ whole.length → part left = whole.take left)
    (limited : buf.sizeMax ≠ 0) (atMax : buf.sizeMax ≤ buf.sizeReal) : Filled granted buf whole (buf.fill granted whole part) := by
  have real : buf.sizeReal = buf.sizeMax := Nat.le_antisymm (sound.capped limited) atMax
  cases live : buf.content with
  | none =>
      cases sound.lostOpen live with
      | inl unlimited => exact absurd unlimited limited
      | inr less => omega
  | some content =>
      have room := room_live buf content live
      have inside := sound.inside
      rw [text_live buf content live] at inside
      have filled : buf.fill granted whole part = some ({ buf with
          content := some (Bounded.marked buf.truncateStr (content ++ whole.take (buf.sizeMax - 1 - content.length)))
          sizeReal := buf.sizeMax }, .truncated) := by
        rw [fill, if_pos needed]
        simp only [resize, if_pos (And.intro limited atMax)]
        rw [if_neg (by omega), fronts buf.room (by omega), truncate_eq, extend, live, room, real]
        rfl
      rw [filled]
      exact .full content live limited (by omega)

theorem filled_at_limit (needed : buf.room < whole.length) (fronts : ∀ left, left ≤ whole.length → part left = whole.take left)
    (less : buf.sizeReal < buf.sizeMax) (tooLong : buf.sizeMax < buf.sizeReal + (whole.length - buf.room)) :
    Filled true buf whole (buf.fill true whole part) := by
  have limited : buf.sizeMax ≠ 0 := by omega
  have resized : buf.resize true (whole.length - buf.room) =
      ({ buf with content := some buf.text, sizeReal := buf.sizeMax }, .truncated) := by
    simp only [resize, if_neg (show ¬ (buf.sizeMax ≠ 0 ∧ buf.sizeMax ≤ buf.sizeReal) by omega), if_neg limited,
      if_neg (show ¬ buf.sizeReal + (whole.length - buf.room) ≤ buf.sizeMax by omega)]
    rfl
  have filled : buf.fill true whole part = if whole.length < buf.sizeMax - 1 - buf.text.length then none else some ({ buf with
      content := some (Bounded.marked buf.truncateStr (buf.text ++ whole.take (buf.sizeMax - 1 - buf.text.length)))
      sizeReal := buf.sizeMax }, .truncated) := by
    rw [fill, if_pos needed, resized]
    by_cases short : whole.length < buf.sizeMax - 1 - buf.text.length
    · exact (if_pos short).trans (if_pos short).symm
    · refine (if_neg short).trans ?_
      rw [if_neg short, ← fronts _ (by omega), truncate_eq]
      rfl
  rw [filled]
  cases live : buf.content with
  | none =>
      have empty := text_lost buf live
      have room := room_lost buf live
      rw [empty, List.length_nil, Nat.sub_zero, List.nil_append]
      exact .lost live rfl limited (by omega)
  | some content =>
      have same := text_live buf content live
      have room := room_live buf content live
      have inside := sound.inside
      rw [same] at inside ⊢
      rw [if_neg (by omega)]
      exact .full content live limited (by omega)

theorem filled_by_growth (needed : buf.room < whole.length) (more : buf.sizeMax = 0 ∨ buf.sizeReal < buf.sizeMax)
    (unlimited : buf.sizeMax = 0 ∨ buf.sizeReal + (whole.length - buf.room) ≤ buf.sizeMax) :
    Filled true buf whole (buf.fill true whole part) := by
  obtain ⟨size, resized, enough, bounded, capped⟩ : ∃ size, buf.resize true (whole.length - buf.room) =
      ({ buf with content := some buf.text, sizeReal := size }, .success) ∧ buf.sizeReal + (whole.length - buf.room) ≤ size ∧
      size ≤ buf.sizeReal + 2 * (whole.length - buf.room) ∧ (buf.sizeMax ≠ 0 → size ≤ buf.sizeMax) := by
    have canGrow : ¬ (buf.sizeMax ≠ 0 ∧ buf.sizeMax ≤ buf.sizeReal) := by omega
    by_cases free : buf.sizeMax = 0
    · refine ⟨buf.sizeReal + 3 * (whole.length - buf.room) / 2, ?_, by omega, by omega, fun limited => absurd free limited⟩
      simp only [resize, if_neg canGrow, if_pos free]
      rfl
    · refine ⟨buf.sizeReal + (whole.length - buf.room), ?_, Nat.le_refl _, by omega, fun _ => by omega⟩
      simp only [resize, if_neg canGrow, if_neg free, if_pos (show buf.sizeReal + (whole.length - buf.room) ≤ buf.sizeMax by omega)]
      rfl
  have filled : buf.fill true whole part = some ({ buf with content := some (buf.text ++ whole), sizeReal := size }, .success) := by
    rw [fill, if_pos needed, resized]
    rfl
  have inside := sound.inside
  rw [filled]
  refine .grown size needed rfl ?_ enough bounded more capped
  cases live : buf.content with
  | none =>
      have room := room_lost buf live
      have empty := text_lost buf live
      rw [empty, List.length_nil] at inside ⊢
      omega
  | some content =>
      have room := room_live buf content live
      have same := text_live buf content live
      rw [same] at inside ⊢
      omega

theorem fill_filled (fronts : ∀ left, left ≤ whole.length → part left = whole.take left) :
    Filled granted buf whole (buf.fill granted whole part) := by
  by_cases fits : whole.length ≤ buf.room
  · rw [fill, if_neg (by omega)]
    exact .roomy fits
  · have needed : buf.room < whole.length := by omega
    by_cases atMax : buf.sizeMax ≠ 0 ∧ buf.sizeMax ≤ buf.sizeReal
    · exact filled_at_max granted buf sound whole part needed fronts atMax.1 atMax.2
    · have more : buf.sizeMax = 0 ∨ buf.sizeReal < buf.sizeMax := by omega
      cases granted with
      | false =>
          have refused : (buf.resize false (whole.length - buf.room)) = ({ buf with content := none }, .fail) := by
            simp only [resize, if_neg atMax, if_true]
          rw [fill, if_pos needed, refused]
          exact .refused needed rfl more
      | true =>
          by_cases tooLong : buf.sizeMax ≠ 0 ∧ buf.sizeMax < buf.sizeReal + (whole.length - buf.room)
          · exact filled_at_limit buf sound whole part needed fronts (by omega) tooLong.2
          · exact filled_by_growth buf sound whole part needed more (by omega)

end Fill

def Sized (buf : Buf) (op : Op) : Prop := ¬ buf.Overflows op.text.length

section Returned

variable (granted : Bool) (op : Op) (buf next : Buf) (rc : Rc)

theorem write_returned (performed : buf.perform granted op = some (next, rc)) (returned : rc ≠ .overflow) :
    buf.write granted op = some (next, rc) := by
  rw [write, performed, Option.bind_some, if_neg returned]

theorem write_performed (wrote : buf.write granted op = some (next, rc)) : buf.perform granted op = some (next, rc) := by
  obtain ⟨result, performed, chosen⟩ := Option.bind_eq_some_iff.mp wrote
  by_cases overflow : result.2 = .overflow
  · rw [if_pos overflow] at chosen
    cases chosen
  · rw [if_neg overflow] at chosen
    exact performed.trans chosen

end Returned

structure Shows (buf : Buf) (whole : Bytes) : Prop where
  sound : Sound buf
  shown : buf.text = Bounded.shown buf.limit buf.truncateStr whole
  gone : buf.content = none → whole = []

structure SameConf (buf next : Buf) : Prop where
  max : next.sizeMax = buf.sizeMax
  mark : next.truncateStr = buf.truncateStr

section Shows

variable (granted : Bool) (buf : Buf) (whole more : Bytes) (result : Option (Buf × Rc))

theorem same_limit (next : Buf) (same : SameConf buf next) : next.limit = buf.limit := by
  rw [limit, limit, same.max]

theorem lost_sound (sound : Sound buf) (canGrow : buf.sizeMax = 0 ∨ buf.sizeReal < buf.sizeMax) : Sound { buf with content := none } :=
  ⟨Nat.lt_of_le_of_lt (Nat.zero_le _) sound.inside, sound.capped, fun _ => canGrow⟩

theorem extend_sound (sound : Sound buf) (fits : more.length ≤ buf.room) : Sound (buf.extend more) := by
  have inside := sound.inside
  cases live : buf.content with
  | none =>
      have same : buf.extend more = buf := by
        rw [extend, live, Option.map_none, ← live]
      rw [same]
      exact sound
  | some content =>
      have room := room_live buf content live
      rw [text_live buf content live] at inside
      refine ⟨?_, sound.capped, fun gone => ?_⟩
      · simp only [extend, text, live, Option.map_some, Option.getD_some, List.length_append]
        omega
      · simp [extend, live] at gone

theorem filled_sound (sound : Sound buf) (filled : Filled granted buf more result) (next : Buf) (rc : Rc)
    (wrote : result = some (next, rc)) : Sound next ∧ SameConf buf next := by
  have inside := sound.inside
  cases filled with
  | roomy fits =>
      cases wrote
      exact ⟨extend_sound buf more sound fits, rfl, rfl⟩
  | refused needed failed canGrow =>
      cases wrote
      exact ⟨lost_sound buf sound canGrow, rfl, rfl⟩
  | grown size needed works fits larger smaller canGrow capped =>
      cases wrote
      refine ⟨⟨?_, capped, fun gone => ?_⟩, rfl, rfl⟩
      · simpa [text] using fits
      · cases gone
  | full content live limited tooLong =>
      cases wrote
      have capped := sound.capped limited
      rw [text_live buf content live] at inside
      refine ⟨⟨?_, fun _ => Nat.le_refl _, fun gone => ?_⟩, rfl, rfl⟩
      · simp only [text, Option.getD_some, Bounded.marked_length, List.length_append, List.length_take]
        omega
      · cases gone
  | lost gone works limited tooLong =>
      by_cases short : more.length < buf.sizeMax - 1
      · rw [if_pos short] at wrote
        cases wrote
      · rw [if_neg short] at wrote
        cases wrote
        refine ⟨⟨?_, fun _ => Nat.le_refl _, fun gone => ?_⟩, rfl, rfl⟩
        · simp only [text, Option.getD_some, Bounded.marked_length, List.length_take]
          omega
        · cases gone

theorem limit_some (limited : buf.sizeMax ≠ 0) : buf.limit = some (buf.sizeMax - 1) := if_neg limited

theorem fits_or_over : Bounded.Fits buf.limit whole.length ∨ buf.sizeMax ≠ 0 ∧ buf.sizeMax - 1 < whole.length := by
  by_cases limited : buf.sizeMax ≠ 0
  · by_cases tooLong : buf.sizeMax - 1 < whole.length
    · exact .inr ⟨limited, tooLong⟩
    · refine .inl fun bound bounded => ?_
      rw [limit_some buf limited] at bounded
      cases bounded
      omega
  · refine .inl fun bound bounded => ?_
    simp [limit, not_not.mp limited] at bounded

theorem fits_below (below : buf.sizeMax ≠ 0 → whole.length < buf.sizeMax) : Bounded.Fits buf.limit whole.length := by
  cases fits_or_over buf whole with
  | inl fits => exact fits
  | inr tooLong =>
      have less := below tooLong.1
      omega

theorem not_fits (limited : buf.sizeMax ≠ 0) (tooLong : buf.sizeMax - 1 < whole.length) : ¬ Bounded.Fits buf.limit whole.length := by
  intro fits
  have within := fits (buf.sizeMax - 1) (limit_some buf limited)
  omega

theorem shows_full (shows : Shows buf whole) (limited : buf.sizeMax ≠ 0) (tooLong : buf.sizeMax - 1 < whole.length) :
    buf.text = Bounded.marked buf.truncateStr (whole.take (buf.sizeMax - 1)) ∧ buf.text.length = buf.sizeMax - 1 := by
  have shown := shows.shown
  rw [limit_some buf limited] at shown
  rw [shown]
  exact ⟨Bounded.shown_over buf.truncateStr whole _ tooLong, Bounded.shown_length_over buf.truncateStr whole _ tooLong⟩

structure Wrote (buf next : Buf) (whole more : Bytes) (rc : Rc) : Prop where
  shows : Shows next (whole ++ more)
  success : rc = .success ↔ more = [] ∨ Bounded.Fits buf.limit (whole ++ more).length
  done : rc ≠ .fail
  returned : rc ≠ .overflow
  live : buf.content ≠ none → next.content ≠ none

theorem wrote_roomy (shows : Shows buf whole) (fits : more.length ≤ buf.room) : Wrote buf (buf.extend more) whole more .success := by
  have sound := extend_sound buf more shows.sound fits
  cases live : buf.content with
  | none =>
      have room := room_lost buf live
      have empty : more = [] := List.length_eq_zero_iff.mp (by omega)
      have same : buf.extend more = buf := by
        rw [extend, live, Option.map_none, ← live]
      rw [same, empty]
      exact ⟨by rw [List.append_nil]; exact shows, by simp, by decide, by decide, id⟩
  | some content =>
      have room := room_live buf content live
      have held := text_live buf content live
      have extended : (buf.extend more).text = content ++ more := by simp [extend, text, live]
      have inside := shows.sound.inside
      have capped := shows.sound.capped
      have stays : (buf.extend more).content ≠ none := by simp [extend, live]
      cases fits_or_over buf whole with
      | inl fit =>
          have same := Bounded.shown_fits buf.limit buf.truncateStr whole fit
          rw [← shows.shown, held] at same
          have longer : Bounded.Fits buf.limit (whole ++ more).length := by
            apply fits_below
            intro limited
            have bound := capped limited
            rw [List.length_append, ← same]
            rw [held] at inside
            omega
          refine ⟨⟨sound, ?_, fun gone => absurd gone stays⟩, ⟨fun _ => .inr longer, fun _ => rfl⟩, by decide, by decide, fun _ => stays⟩
          rw [extended, same]
          exact (Bounded.shown_fits buf.limit buf.truncateStr _ longer).symm
      | inr tooLong =>
          have full := (shows_full buf whole shows tooLong.1 tooLong.2).2
          have bound := capped tooLong.1
          rw [held] at full
          have empty : more = [] := List.length_eq_zero_iff.mp (by omega)
          refine ⟨⟨sound, ?_, fun gone => absurd gone stays⟩, ⟨fun _ => .inl empty, fun _ => rfl⟩, by decide, by decide, fun _ => stays⟩
          rw [extended, empty, List.append_nil, List.append_nil, ← held]
          exact shows.shown

theorem wrote_full (shows : Shows buf whole) (next : Buf) (content : Bytes) (live : buf.content = some content) (limited : buf.sizeMax ≠ 0)
    (tooLong : buf.sizeMax - 1 < content.length + more.length) (same : SameConf buf next) (sound : Sound next)
    (marked : next.content = some (Bounded.marked buf.truncateStr (content ++ more.take (buf.sizeMax - 1 - content.length)))) :
    Wrote buf next whole more .truncated := by
  have held := text_live buf content live
  have inside := shows.sound.inside
  have capped := shows.sound.capped limited
  rw [held] at inside
  have nonempty : more ≠ [] := by
    rintro rfl
    simp only [List.length_nil] at tooLong
    omega
  have extended : next.text = Bounded.shown (some (buf.sizeMax - 1)) buf.truncateStr (whole ++ more) ∧
      buf.sizeMax - 1 < (whole ++ more).length := by
    cases fits_or_over buf whole with
    | inl fit =>
        have fitted := Bounded.shown_fits buf.limit buf.truncateStr whole fit
        rw [← shows.shown, held] at fitted
        have longer : buf.sizeMax - 1 < (whole ++ more).length := by
          rw [List.length_append, ← fitted]
          exact tooLong
        have front : whole.take (buf.sizeMax - 1) = whole := by
          apply List.take_of_length_le
          rw [← fitted]
          omega
        rw [Bounded.shown_over buf.truncateStr _ _ longer, text, marked, Option.getD_some, fitted, List.take_append, front]
        exact ⟨rfl, longer⟩
    | inr beyond =>
        obtain ⟨cut, full⟩ := shows_full buf whole shows limited beyond.2
        rw [held] at cut full
        rw [Bounded.shown_stays buf.truncateStr whole more _ beyond.2, Bounded.shown_over buf.truncateStr whole _ beyond.2, text, marked,
          Option.getD_some, full, Nat.sub_self, List.take_zero, List.append_nil, cut, Bounded.marked_marked, List.length_append]
        exact ⟨rfl, by omega⟩
  refine ⟨⟨sound, ?_, fun gone => ?_⟩, ⟨fun wrong => ?_, fun fits => ?_⟩, by decide, by decide, fun _ => by simp [marked]⟩
  · rw [same_limit buf next same, limit_some buf limited, same.mark]
    exact extended.1
  · rw [marked] at gone
    cases gone
  · cases wrong
  · cases fits with
    | inl empty => exact absurd empty nonempty
    | inr fits => exact absurd fits (not_fits buf (whole ++ more) limited extended.2)

theorem wrote_grown (shows : Shows buf whole) (next : Buf) (canGrow : buf.sizeMax = 0 ∨ buf.sizeReal < buf.sizeMax)
    (same : SameConf buf next)
    (sound : Sound next) (grown : next.content = some (buf.text ++ more))
    (below : buf.sizeMax ≠ 0 → buf.text.length + more.length < buf.sizeMax) :
    Wrote buf next whole more .success := by
  have inside := shows.sound.inside
  have held : buf.text = whole := by
    cases fits_or_over buf whole with
    | inl fits =>
        rw [shows.shown]
        exact Bounded.shown_fits buf.limit buf.truncateStr whole fits
    | inr tooLong =>
        have full := (shows_full buf whole shows tooLong.1 tooLong.2).2
        omega
  have fits : Bounded.Fits buf.limit (whole ++ more).length := by
    apply fits_below
    intro limited
    rw [List.length_append, ← held]
    exact below limited
  refine ⟨⟨sound, ?_, fun gone => ?_⟩, ⟨fun _ => .inr fits, fun _ => rfl⟩, by decide, by decide, fun _ => by simp [grown]⟩
  · rw [same_limit buf next same, same.mark, Bounded.shown_fits buf.limit buf.truncateStr _ fits, text, grown, Option.getD_some, held]
  · rw [grown] at gone
    cases gone

theorem wrote_lost (shows : Shows buf whole) (next : Buf) (gone : buf.content = none) (limited : buf.sizeMax ≠ 0)
    (long : buf.sizeMax ≤ more.length) (same : SameConf buf next) (sound : Sound next)
    (marked : next.content = some (Bounded.marked buf.truncateStr (more.take (buf.sizeMax - 1)))) :
    Wrote buf next whole more .truncated := by
  have tooLong : buf.sizeMax - 1 < more.length := by omega
  refine ⟨⟨sound, ?_, fun lost => ?_⟩, ⟨fun wrong => ?_, fun fits => ?_⟩, by decide, by decide, fun _ => by simp [marked]⟩
  · rw [same_limit buf next same, limit_some buf limited, same.mark, shows.gone gone, List.nil_append,
      Bounded.shown_over _ _ _ tooLong, text, marked]
    rfl
  · rw [marked] at lost
    cases lost
  · cases wrong
  · rw [shows.gone gone, List.nil_append] at fits
    cases fits with
    | inl empty =>
        rw [empty, List.length_nil] at long
        omega
    | inr fits => exact absurd fits (not_fits buf more limited tooLong)

inductive Outcome (granted : Bool) (buf next : Buf) (whole more : Bytes) (rc : Rc) : Prop where
  | failed (said : rc = .fail) (reason : granted = false ∨ buf.content = none) (gone : next.content = none) (lost : Shows next [])
  | wrote (wrote : Wrote buf next whole more rc)

theorem Outcome.returned (next : Buf) (rc : Rc) (outcome : Outcome granted buf next whole more rc) : rc ≠ .overflow := by
  cases outcome with
  | failed said =>
      rw [said]
      decide
  | wrote wrote => exact wrote.returned

theorem filled_shows (shows : Shows buf whole) (filled : Filled granted buf more result)
    (safe : buf.content = none → granted = true → buf.sizeMax ≠ 0 → buf.sizeMax < buf.sizeReal + more.length → buf.sizeMax ≤ more.length) :
    ∃ next rc, result = some (next, rc) ∧ SameConf buf next ∧ Outcome granted buf next whole more rc := by
  have kept := filled_sound granted buf more result shows.sound filled
  cases filled with
  | roomy fits => exact ⟨_, _, rfl, ⟨rfl, rfl⟩, .wrote (wrote_roomy buf whole more shows fits)⟩
  | refused needed failed canGrow =>
      refine ⟨_, _, rfl, ⟨rfl, rfl⟩, .failed rfl (.inl failed) rfl ⟨lost_sound buf shows.sound canGrow, ?_, fun _ => rfl⟩⟩
      exact (Bounded.shown_fits _ _ [] fun _ _ => Nat.zero_le _).symm
  | grown size needed works fits larger smaller canGrow capped =>
      refine ⟨_, _, rfl, ⟨rfl, rfl⟩, .wrote (wrote_grown buf whole more shows _ canGrow ⟨rfl, rfl⟩ (kept _ _ rfl).1 rfl ?_)⟩
      intro limited
      exact Nat.lt_of_lt_of_le fits (capped limited)
  | full content live limited tooLong =>
      exact ⟨_, _, rfl, ⟨rfl, rfl⟩, .wrote (wrote_full buf whole more shows _ content live limited tooLong ⟨rfl, rfl⟩ (kept _ _ rfl).1 rfl)⟩
  | lost gone works limited tooLong =>
      have long := safe gone works limited tooLong
      rw [if_neg (by omega)] at kept ⊢
      exact ⟨_, _, rfl, ⟨rfl, rfl⟩, .wrote (wrote_lost buf whole more shows _ gone limited long ⟨rfl, rfl⟩ (kept _ _ rfl).1 rfl)⟩

end Shows

-- An append to a lost buffer has no check of its own: it is right only when its text does
-- not hit the limit, or is too long for it.
def Safe (buf : Buf) (event : Op × Bool) : Prop :=
  ∀ str, event.1 = .append str → buf.content = none → event.2 = true → buf.sizeMax ≠ 0 →
    buf.sizeMax < buf.sizeReal + str.length → buf.sizeMax ≤ str.length

section Perform

variable (granted : Bool) (op : Op) (buf : Buf) (whole : Bytes) (shows : Shows buf whole)

include shows

theorem restart_shows : Shows buf.restart [] := by
  have inside := shows.sound.inside
  have empty : buf.restart.text = [] := by
    rw [text, restart]
    cases buf.content with
    | none => rfl
    | some content => rfl
  refine ⟨⟨?_, shows.sound.capped, ?_⟩, ?_, fun _ => rfl⟩
  · rw [empty]
    exact Nat.lt_of_le_of_lt (Nat.zero_le _) inside
  · intro gone
    exact shows.sound.lostOpen (Option.map_eq_none_iff.mp gone)
  · rw [empty]
    exact (Bounded.shown_fits _ _ [] fun _ _ => Nat.zero_le _).symm

theorem write_shows (writes : op ≠ .restart) (formats : op ≠ .vprintf none) (safe : Safe buf (op, granted)) (sized : Sized buf op) :
    ∃ next rc, buf.write granted op = some (next, rc) ∧ SameConf buf next ∧ Outcome granted buf next whole op.text rc := by
  obtain ⟨part, fronts, source⟩ := (perform_fills granted buf op writes formats).filled
  have filled := fill_filled granted buf shows.sound op.text part fronts
  cases source with
  | inl appended =>
      obtain ⟨same, str, rfl⟩ := appended
      obtain ⟨next, rc, result, conf, outcome⟩ := filled_shows granted buf whole str _ shows filled (safe str rfl)
      exact ⟨next, rc, write_returned granted _ buf next rc (same.trans result) outcome.returned, conf, outcome⟩
  | inr checked =>
      by_cases gone : buf.content = none
      · have performed : buf.perform granted op = some (buf, .fail) := by
          rw [checked.1, fillLive, if_pos gone]
        have lost : Shows buf [] := by
          rw [← shows.gone gone]
          exact shows
        exact ⟨buf, .fail, write_returned granted op buf buf .fail performed (by decide), ⟨rfl, rfl⟩, .failed rfl (.inr gone) gone lost⟩
      · obtain ⟨next, rc, result, conf, outcome⟩ := filled_shows granted buf whole op.text _ shows filled fun lost => absurd lost gone
        have performed : buf.perform granted op = some (next, rc) := by
          rw [checked.1, fillLive, if_neg gone, if_neg sized]
          exact result
        exact ⟨next, rc, write_returned granted op buf next rc performed outcome.returned, conf, outcome⟩

end Perform

-- The text asked for since the last restart, or since the text was lost.
def told (whole : Bytes) (op : Op) (next : Buf) (rc : Rc) : Bytes :=
  if op = .restart ∨ next.content = none then [] else if rc = .fail then whole else whole ++ op.text

def noteStep (state : Buf × Bytes) (event : Op × Bool) : Option (Buf × Bytes) :=
  (state.1.write event.2 event.1).map fun result => (result.1, told state.2 event.1 result.1 result.2)

theorem note_step_shows (buf : Buf) (whole : Bytes) (event : Op × Bool) (shows : Shows buf whole) (safe : Safe buf event)
    (sized : Sized buf event.1) :
    ∃ next after, noteStep (buf, whole) event = some (next, after) ∧ Shows next after ∧ SameConf buf next := by
  obtain ⟨op, granted⟩ := event
  by_cases restarts : op = .restart
  · subst restarts
    exact ⟨buf.restart, [], rfl, restart_shows buf whole shows, rfl, rfl⟩
  · by_cases unformatted : op = .vprintf none
    · subst unformatted
      refine ⟨buf, whole, ?_, shows, rfl, rfl⟩
      by_cases gone : buf.content = none
      · rw [shows.gone gone]
        simp [noteStep, write, perform, vprintf, told, gone]
      · simp [noteStep, write, perform, vprintf, told, gone]
    · obtain ⟨next, rc, performed, conf, outcome⟩ := write_shows granted op buf whole shows restarts unformatted safe sized
      refine ⟨next, told whole op next rc, by simp only [noteStep, performed, Option.map_some], ?_, conf⟩
      cases outcome with
      | failed said reason gone lost =>
          rw [told, if_pos (.inr gone)]
          exact lost
      | wrote wrote =>
          by_cases gone : next.content = none
          · have nothing := wrote.shows.gone gone
            rw [told, if_pos (.inr gone), ← nothing]
            exact wrote.shows
          · rw [told, if_neg (by simp [restarts, gone]), if_neg wrote.done]
            exact wrote.shows

theorem new_shows (sizeMin sizeMax : Nat) (truncateStr : Bytes) (buf : Buf) (built : new sizeMin sizeMax truncateStr = some buf) :
    Shows buf [] ∧ buf.sizeMax = sizeMax ∧ buf.truncateStr = truncateStr := by
  unfold new at built
  split at built
  · cases built
  · split at built
    · cases built
    · split at built
      · cases built
      · cases built
        refine ⟨⟨⟨?_, ?_, ?_⟩, ?_, fun _ => rfl⟩, rfl, rfl⟩
        · exact Nat.pos_of_ne_zero ‹_›
        · intro limited
          simp only [ne_eq, not_and, Nat.not_lt] at *
          tauto
        · intro gone
          cases gone
        · exact (Bounded.shown_fits _ _ [] fun _ _ => Nat.zero_le _).symm

theorem run_shows (buf : Buf) (whole : Bytes) (events : List (Op × Bool)) (shows : Shows buf whole)
    (safe : Machine.Guarded noteStep (fun state event => Safe state.1 event ∧ Sized state.1 event.1) (buf, whole) events) :
    ∃ final after, Machine.run noteStep (buf, whole) events = some (final, after) ∧ Shows final after ∧ SameConf buf final := by
  induction events generalizing buf whole with
  | nil => exact ⟨buf, whole, rfl, shows, rfl, rfl⟩
  | cons event rest ih =>
      obtain ⟨next, after, stepped, nextShows, conf⟩ := note_step_shows buf whole event shows safe.1.1 safe.1.2
      obtain ⟨final, last, ran, finalShows, later⟩ := ih next after nextShows (safe.2 (next, after) stepped)
      refine ⟨final, last, ?_, finalShows, later.max.trans conf.max, later.mark.trans conf.mark⟩
      rw [Machine.run_cons, stepped]
      exact ran

section Sizes

variable (op : Op) (buf : Buf)

theorem sized_small (small : buf.sizeReal + 2 * op.text.length < 2 ^ 64) : Sized buf op := by
  intro overflows
  obtain ⟨_, _, large⟩ := overflows
  rw [wanted] at large
  split at large
  · omega
  · omega

theorem overflow_lost (writes : op ≠ .restart) (formats : op ≠ .vprintf none) (live : buf.content ≠ none)
    (large : buf.Overflows op.text.length) (padded : ∀ str, op ≠ .append str) : buf.write true op = none := by
  obtain ⟨part, _, source⟩ := (perform_fills true buf op writes formats).filled
  cases source with
  | inl appended =>
      obtain ⟨str, same⟩ := appended.2
      exact absurd same (padded str)
  | inr checked =>
      rw [write, checked.1, fillLive, if_neg live, if_pos large]
      rfl

end Sizes

theorem buffer_shows_text (sizeMin sizeMax : Nat) (truncateStr : Bytes) (buf : Buf) (built : new sizeMin sizeMax truncateStr = some buf)
    (events : List (Op × Bool))
    (safe : Machine.Guarded noteStep (fun state event => Safe state.1 event ∧ Sized state.1 event.1) (buf, []) events) :
    ∃ final whole limit, limit = (if sizeMax = 0 then none else some (sizeMax - 1)) ∧
      Machine.run noteStep (buf, []) events = some (final, whole) ∧ final.text = Bounded.shown limit truncateStr whole ∧
      final.text.length < final.sizeReal ∧ (sizeMax ≠ 0 → final.sizeReal ≤ sizeMax) ∧
      ∀ op, op ≠ .restart → op ≠ .vprintf none → final.content ≠ none →
        (Sized final op → ∃ next rc, final.write true op = some (next, rc) ∧ rc ≠ .fail ∧
          (rc = .success ↔ op.text = [] ∨ Bounded.Fits limit (whole ++ op.text).length)) ∧
        (¬ Sized final op → (∀ str, op ≠ .append str) → final.write true op = none) := by
  obtain ⟨start, max, mark⟩ := new_shows sizeMin sizeMax truncateStr buf built
  obtain ⟨final, whole, ran, shows, conf⟩ := run_shows buf [] events start safe
  have limited : final.limit = if sizeMax = 0 then none else some (sizeMax - 1) := by
    rw [limit, conf.max, max]
  refine ⟨final, whole, final.limit, limited, ran, ?_, shows.sound.inside, ?_, ?_⟩
  · rw [shows.shown, conf.mark, mark]
  · rw [← max, ← conf.max]
    exact shows.sound.capped
  · intro op writes formats live
    constructor
    · intro sized
      have safe : Safe final (op, true) := fun _ _ gone => absurd gone live
      obtain ⟨next, rc, performed, _, outcome⟩ := write_shows true op final whole shows writes formats safe sized
      refine ⟨next, rc, performed, ?_⟩
      cases outcome with
      | failed said reason =>
          cases reason with
          | inl refused => cases refused
          | inr gone => exact absurd gone live
      | wrote wrote => exact ⟨wrote.done, wrote.success⟩
    · intro large padded
      exact overflow_lost op final writes formats live (not_not.mp large) padded

theorem buffer_shows_text_marked :
    ∃ final whole, Machine.run noteStep (⟨4, 6, 4, ascii "..", some []⟩, []) [(.append (ascii "ab"), true), (.restart, true),
        (.printfDec32 7 3, true), (.append (ascii "xyz"), true)] = some (final, whole) ∧
      final.text = ascii "007.." ∧ whole = ascii "007xyz" := by
  obtain ⟨final, whole, _, limited, ran, shown, _⟩ := buffer_shows_text 4 6 (ascii "..") ⟨4, 6, 4, ascii "..", some []⟩ rfl
    [(.append (ascii "ab"), true), (.restart, true), (.printfDec32 7 3, true), (.append (ascii "xyz"), true)] (by
      have live : ∀ (state : Buf × Bytes) (event : Op × Bool), state.1.content ≠ none → Safe state.1 event :=
        fun _ _ live _ _ gone => absurd gone live
      have small : ∀ (state : Buf × Bytes) (event : Op × Bool), state.1.sizeReal + 2 * event.1.text.length < 2 ^ 64 →
          Sized state.1 event.1 := fun state event bound => sized_small event.1 state.1 bound
      refine ⟨⟨live _ _ (by decide), small _ _ (by decide)⟩, fun _ first => ?_⟩
      cases first
      refine ⟨⟨live _ _ (by decide), small _ _ (by decide)⟩, fun _ second => ?_⟩
      cases second
      refine ⟨⟨live _ _ (by decide), small _ _ (by decide)⟩, fun _ third => ?_⟩
      cases third
      exact ⟨⟨live _ _ (by decide), small _ _ (by decide)⟩, fun _ _ => trivial⟩)
  refine ⟨final, whole, ran, ?_, ?_⟩
  · cases ran
    decide
  · cases ran
    decide

section Growth

theorem fill_live_overflows (granted : Bool) (whole : Bytes) (part : Nat → Bytes) (buf : Buf) (live : buf.content ≠ none)
    (large : buf.Overflows whole.length) :
    buf.fillLive granted whole part = some (buf, .overflow) ∨
      buf.fillLive granted whole part = some ({ buf with content := none }, .fail) := by
  rw [fillLive, if_neg live, if_pos large]
  by_cases gives : granted = true ∨ buf.wanted whole.length % 2 ^ 64 = 0
  · exact .inl (if_pos gives)
  · exact .inr (if_neg gives)

theorem filled_small (granted : Bool) (buf next : Buf) (whole : Bytes) (rc : Rc) (result : Option (Buf × Rc)) (live : buf.content ≠ none)
    (filled : Filled granted buf whole result) (wrote : result = some (next, rc)) :
    next.sizeReal ≤ max (max buf.sizeReal buf.sizeMax) (2 * (buf.text.length + whole.length + 1)) := by
  obtain ⟨content, held⟩ := Option.ne_none_iff_exists'.mp live
  have room := room_live buf content held
  have same := text_live buf content held
  cases filled with
  | roomy fits =>
      cases wrote
      exact Nat.le_trans (Nat.le_max_left _ _) (Nat.le_max_left _ _)
  | refused needed failed canGrow =>
      cases wrote
      exact Nat.le_trans (Nat.le_max_left _ _) (Nat.le_max_left _ _)
  | grown size needed works fits larger smaller canGrow capped =>
      cases wrote
      dsimp only
      rw [same]
      omega
  | full other live limited tooLong =>
      cases wrote
      exact Nat.le_trans (Nat.le_max_right _ _) (Nat.le_max_left _ _)
  | lost gone => exact absurd gone live

theorem write_small (granted : Bool) (op : Op) (buf next : Buf) (rc : Rc) (sound : Sound buf) (live : buf.content ≠ none)
    (writes : op ≠ .restart) (formats : op ≠ .vprintf none) (wrote : buf.write granted op = some (next, rc)) :
    next.sizeReal ≤ max (max buf.sizeReal buf.sizeMax) (2 * (buf.text.length + op.text.length + 1)) := by
  have performed := write_performed granted op buf next rc wrote
  obtain ⟨part, fronts, source⟩ := (perform_fills granted buf op writes formats).filled
  have filled := fill_filled granted buf sound op.text part fronts
  cases source with
  | inl appended => exact filled_small granted buf next op.text rc _ live filled (appended.1.symm.trans performed)
  | inr checked =>
      rw [checked.1] at performed
      by_cases large : buf.Overflows op.text.length
      · have same : next.sizeReal = buf.sizeReal := by
          cases fill_live_overflows granted op.text part buf live large with
          | inl stopped =>
              cases stopped.symm.trans performed
              rfl
          | inr refused =>
              cases refused.symm.trans performed
              rfl
        rw [same]
        exact Nat.le_trans (Nat.le_max_left _ _) (Nat.le_max_left _ _)
      · rw [fillLive, if_neg live, if_neg large] at performed
        exact filled_small granted buf next op.text rc _ live filled performed

end Growth

section Overread

theorem perform_sound (granted : Bool) (op : Op) (buf next : Buf) (rc : Rc) (sound : Sound buf)
    (performed : buf.perform granted op = some (next, rc)) : Sound next ∧ SameConf buf next := by
  by_cases restarts : op = .restart
  · subst restarts
    cases performed
    refine ⟨⟨?_, sound.capped, fun gone => sound.lostOpen (Option.map_eq_none_iff.mp gone)⟩, rfl, rfl⟩
    have inside := sound.inside
    cases live : buf.content with
    | none => simpa [text, restart, live] using inside
    | some content =>
        simp only [text, restart, live, Option.map_some, Option.getD_some, List.length_nil]
        omega
  · by_cases unformatted : op = .vprintf none
    · subst unformatted
      cases performed
      exact ⟨sound, rfl, rfl⟩
    · obtain ⟨part, fronts, source⟩ := (perform_fills granted buf op restarts unformatted).filled
      have filled := fill_filled granted buf sound op.text part fronts
      cases source with
      | inl appended => exact filled_sound granted buf op.text _ sound filled next rc (appended.1.symm.trans performed)
      | inr checked =>
          rw [checked.1] at performed
          by_cases gone : buf.content = none
          · rw [fillLive, if_pos gone] at performed
            cases performed
            exact ⟨sound, rfl, rfl⟩
          · by_cases large : buf.Overflows op.text.length
            · have canGrow : buf.sizeMax = 0 ∨ buf.sizeReal < buf.sizeMax := by
                have notFull := large.2.1
                omega
              cases fill_live_overflows granted op.text part buf gone large with
              | inl stopped =>
                  cases stopped.symm.trans performed
                  exact ⟨sound, rfl, rfl⟩
              | inr refused =>
                  cases refused.symm.trans performed
                  exact ⟨lost_sound buf sound canGrow, rfl, rfl⟩
            · rw [fillLive, if_neg gone, if_neg large] at performed
              exact filled_sound granted buf op.text _ sound filled next rc performed

theorem filled_none_iff (granted : Bool) (buf : Buf) (whole : Bytes) (result : Option (Buf × Rc)) (sound : Sound buf)
    (filled : Filled granted buf whole result) :
    result = none ↔ granted = true ∧ buf.content = none ∧ buf.sizeMax ≠ 0 ∧ whole.length + 1 < buf.sizeMax ∧
      buf.sizeMax < buf.sizeReal + whole.length := by
  cases filled with
  | roomy fits =>
      refine ⟨by simp, fun unsafely => ?_⟩
      obtain ⟨_, gone, limited, _, tooLong⟩ := unsafely
      have room := room_lost buf gone
      have capped := sound.capped limited
      omega
  | refused needed failed canGrow =>
      refine ⟨by simp, fun unsafely => ?_⟩
      rw [failed] at unsafely
      cases unsafely.1
  | grown size needed works fits larger smaller canGrow capped =>
      refine ⟨by simp, fun unsafely => ?_⟩
      obtain ⟨_, gone, limited, _, tooLong⟩ := unsafely
      have room := room_lost buf gone
      have most := capped limited
      omega
  | full content live limited tooLong =>
      refine ⟨by simp, fun unsafely => ?_⟩
      rw [live] at unsafely
      cases unsafely.2.1
  | lost gone works limited tooLong =>
      by_cases short : whole.length < buf.sizeMax - 1
      · rw [if_pos short]
        exact ⟨fun _ => ⟨works, gone, limited, by omega, tooLong⟩, fun _ => rfl⟩
      · rw [if_neg short]
        refine ⟨by simp, fun unsafely => ?_⟩
        omega

end Overread

-- After a failed realloc the size is what it was, so an append counts room that is not
-- there and copies more than its text.
theorem lost_append_overreads (sizeMin sizeMax : Nat) (truncateStr : Bytes) (buf : Buf) (built : new sizeMin sizeMax truncateStr = some buf)
    (events : List (Op × Bool)) (final : Buf) (ran : Machine.run step buf events = some final) (op : Op) (granted : Bool) :
    final.perform granted op = none ↔ ∃ str, op = .append str ∧ granted = true ∧ final.content = none ∧ sizeMax ≠ 0 ∧
      str.length + 1 < sizeMax ∧ sizeMax < final.sizeReal + str.length := by
  obtain ⟨start, max, _⟩ := new_shows sizeMin sizeMax truncateStr buf built
  have preserve : ∀ state event next, (Sound state ∧ state.sizeMax = sizeMax) → step state event = some next →
      Sound next ∧ next.sizeMax = sizeMax := by
    intro state event next kept stepped
    obtain ⟨⟨other, rc⟩, wrote, rfl⟩ := Option.map_eq_some_iff.mp stepped
    obtain ⟨sound, conf⟩ := perform_sound event.2 event.1 state other rc kept.1 (write_performed event.2 event.1 state other rc wrote)
    exact ⟨sound, conf.max.trans kept.2⟩
  obtain ⟨sound, same⟩ := Machine.run_invariant (fun state => Sound state ∧ state.sizeMax = sizeMax) preserve buf final events
    ⟨start.sound, max⟩ ran
  by_cases restarts : op = .restart
  · subst restarts
    simp [perform]
  · by_cases unformatted : op = .vprintf none
    · subst unformatted
      simp [perform, vprintf]
    · obtain ⟨part, fronts, source⟩ := (perform_fills granted final op restarts unformatted).filled
      have exactly := filled_none_iff granted final op.text _ sound (fill_filled granted final sound op.text part fronts)
      cases source with
      | inl appended =>
          obtain ⟨filled, str, rfl⟩ := appended
          rw [filled, exactly, same]
          constructor
          · intro unsafely
            exact ⟨str, rfl, unsafely⟩
          · intro unsafely
            obtain ⟨other, sameOp, found⟩ := unsafely
            cases sameOp
            exact found
      | inr checked =>
          have never : final.perform granted op ≠ none := by
            rw [checked.1]
            by_cases gone : final.content = none
            · rw [fillLive, if_pos gone]
              simp
            · by_cases large : final.Overflows op.text.length
              · cases fill_live_overflows granted op.text part final gone large with
                | inl stopped => simp [stopped]
                | inr refused => simp [refused]
              · rw [fillLive, if_neg gone, if_neg large]
                exact fun past => gone (exactly.mp past).2.1
          refine ⟨fun past => absurd past never, fun unsafely => ?_⟩
          obtain ⟨str, same, _⟩ := unsafely
          exact absurd same (checked.2 str)

theorem lost_append_overreads_five :
    ∃ lost, Machine.run step ⟨4, 8, 4, [], some []⟩ [(.append (ascii "abcdef"), false)] = some lost ∧
      lost.perform true (.append (ascii "abcde")) = none := by
  obtain ⟨lost, ran⟩ : ∃ lost, Machine.run step ⟨4, 8, 4, [], some []⟩ [(.append (ascii "abcdef"), false)] = some lost := ⟨_, rfl⟩
  have past := lost_append_overreads 4 8 [] ⟨4, 8, 4, [], some []⟩ rfl [(.append (ascii "abcdef"), false)] lost ran
    (.append (ascii "abcde")) true
  refine ⟨lost, ran, past.mpr ⟨ascii "abcde", rfl, rfl, ?_⟩⟩
  cases ran
  decide

end Buf

end Zlog
