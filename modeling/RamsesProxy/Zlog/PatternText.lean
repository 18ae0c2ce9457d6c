import Mathlib.Data.List.Chain
import RamsesProxy.Zlog.MessageText
import RamsesProxy.Zlog.Pattern

set_option autoImplicit false

namespace Zlog

open CText

def Conversion.letters : Conversion → Bytes
  | .str text => text
  | .time timeFmt _ => [100, 40] ++ timeFmt ++ [41]
  | .mdc mdcKey => [77, 40] ++ mdcKey ++ [41]
  | .ms => [109, 115]
  | .us => [117, 115]
  | .category => [99]
  | .srcfile => [70]
  | .srcfileNeat => [102]
  | .hostname => [72]
  | .srcline => [76]
  | .usrmsg => [109]
  | .newline => [110]
  | .pid => [112]
  | .srcfunc => [85]
  | .levelLowercase => [118]
  | .levelUppercase => [86]
  | .tidHex => [116]
  | .tidLong => [84]
  | .percent => [37]

def Adjust.printFmt (adjust : Adjust) : Bytes :=
  (if adjust.leftAdjust = true then [45] else []) ++ (decimal adjust.minWidth ++ 46 :: decimal adjust.maxWidth)

def Conversion.isStr : Conversion → Bool
  | .str _ => true
  | _ => false

def Spec.print (spec : Spec) : Bytes :=
  if spec.conversion.isStr = true then spec.conversion.letters
  else 37 :: ((spec.adjust.map Adjust.printFmt).getD [] ++ spec.conversion.letters)

-- What a pattern can say. A constant string goes up to the next percent sign, a time
-- format and a key up to the next bracket, and a width is a long.
def Conversion.Sayable : Conversion → Prop
  | .str text => text ≠ [] ∧ ∀ byte ∈ text, byte ≠ 37
  | .time timeFmt _ => timeFmt ≠ [] ∧ ∀ byte ∈ timeFmt, byte ≠ 41
  | .mdc mdcKey => mdcKey.length ≤ 1024 ∧ ∀ byte ∈ mdcKey, byte ≠ 41
  | _ => True

structure Spec.Sayable (spec : Spec) : Prop where
  conversion : spec.conversion.Sayable
  direct : spec.conversion.isStr = true → spec.adjust = none
  widths : ∀ adjust, spec.adjust = some adjust → adjust.minWidth < 2 ^ 63 ∧ adjust.maxWidth < 2 ^ 63

-- Two constant strings in a row would be one, and %m before an s is %ms.
def Spec.Before (spec next : Spec) : Prop :=
  ∀ text, next.conversion = .str text → spec.conversion.isStr = false ∧ (spec.conversion = .usrmsg → text.head? ≠ some 115)

def Conversion.withCache (count : Nat) : Conversion → Conversion × Nat
  | .time timeFmt _ => (.time timeFmt count, count + 1)
  | conversion => (conversion, count)

def withCaches : Nat → List Spec → List Spec × Nat
  | count, [] => ([], count)
  | count, spec :: rest =>
      let first := spec.conversion.withCache count
      let others := withCaches first.2 rest
      ({ spec with conversion := first.1 } :: others.1, others.2)

section Widths

theorem scan_width_decimal (number : Nat) (rest : Bytes) (bound : number < 2 ^ 63) (ends : ∀ byte ∈ rest.head?, isDigit byte = false) :
    scanWidth (decimal number ++ rest) = number := by
  obtain ⟨first, others, digits, _⟩ := decimal_cons number
  have scanned := scan_digits (decimal number) rest (by rw [digits]; simp) (decimal_digits number) ends
  rw [digits_value_decimal] at scanned
  rw [scanWidth, scanLd, scanned]
  simp only [Option.map_some, Option.getD_some]
  omega

theorem parse_print_fmt (adjust : Adjust) (minBound : adjust.minWidth < 2 ^ 63) (maxBound : adjust.maxWidth < 2 ^ 63) :
    parsePrintFmt adjust.printFmt = adjust := by
  obtain ⟨first, others, digits, digit⟩ := decimal_cons adjust.minWidth
  have minus : first ≠ 45 := digit_ne first 45 digit rfl
  have dotted : (decimal adjust.minWidth ++ 46 :: decimal adjust.maxWidth).dropWhile (· != 46) = 46 :: decimal adjust.maxWidth := by
    have noDot : ∀ byte ∈ decimal adjust.minWidth, (byte != 46) = true := by
      intro byte member
      simpa using digit_ne byte 46 (decimal_digits adjust.minWidth byte member) rfl
    rw [List.dropWhile_append_of_pos noDot]
    simp
  have low := scan_width_decimal adjust.minWidth (46 :: decimal adjust.maxWidth) minBound (by simp [isDigit])
  have high := scan_width_decimal adjust.maxWidth [] maxBound (by simp)
  rw [List.append_nil] at high
  obtain ⟨leftAdjust, minWidth, maxWidth⟩ := adjust
  cases leftAdjust with
  | true =>
      simp only [parsePrintFmt, Adjust.printFmt, if_true, List.cons_append, List.nil_append, List.head?_cons, List.tail_cons, BEq.rfl]
      rw [dotted, low, if_neg (by simp), List.tail_cons, high]
  | false =>
      have head : (((decimal minWidth ++ 46 :: decimal maxWidth).head? : Option UInt8) == some 45) = false := by
        rw [digits]
        simpa using minus
      simp only [parsePrintFmt, Adjust.printFmt, Bool.false_eq_true, if_false, List.nil_append, head]
      rw [dotted, low, if_neg (by simp), List.tail_cons, high]

end Widths

section Printed

theorem bracketed_text (text rest : Bytes) (clear : ∀ byte ∈ text, byte ≠ 41) : bracketed (text ++ 41 :: rest) = .ok (text, rest) := by
  have inside : ∀ byte ∈ text, (byte != 41) = true := by
    intro byte member
    simpa using clear byte member
  rw [bracketed, List.dropWhile_append_of_pos inside, List.takeWhile_append_of_pos inside]
  simp

theorem time_parsed (timeFmt rest : Bytes) (count : Nat) (some : timeFmt ≠ []) (clear : ∀ byte ∈ timeFmt, byte ≠ 41) :
    parseConversion (100 :: 40 :: (timeFmt ++ 41 :: rest)) count = parseTime timeFmt rest count := by
  have scanned := bracketed_text timeFmt rest clear
  obtain ⟨first, others, rfl⟩ := List.exists_cons_of_ne_nil some
  have notBracket : first ≠ 41 := clear first List.mem_cons_self
  rw [parseConversion, scanned]
  · rfl
  · intro other same
    exact absurd (List.cons.inj same).1 notBracket

theorem usrmsg_parsed (rest : Bytes) (count : Nat) (apart : rest.head? ≠ some 115) :
    parseConversion (109 :: rest) count = .ok (.usrmsg, rest, count) := by
  rw [parseConversion]
  · rfl
  · simp
  · simp
  · simp
  · simp
  · intro other _ same
    rw [same] at apart
    exact absurd rfl apart
  · simp

theorem mdc_parsed (mdcKey rest : Bytes) (count : Nat) (short : mdcKey.length ≤ 1024) (clear : ∀ byte ∈ mdcKey, byte ≠ 41) :
    parseConversion (77 :: 40 :: (mdcKey ++ 41 :: rest)) count = .ok (.mdc mdcKey, rest, count) := by
  have scanned := bracketed_text mdcKey rest clear
  have inside : ∀ byte ∈ mdcKey, (byte != 41) = true := by
    intro byte member
    simpa using clear byte member
  have taken : (mdcKey ++ 41 :: rest).takeWhile (· != 41) = mdcKey := by
    rw [List.takeWhile_append_of_pos inside]
    simp
  rw [parseConversion, taken, if_neg (by omega), scanned]
  rfl

theorem letters_parsed (conversion : Conversion) (rest : Bytes) (count : Nat) (sayable : conversion.Sayable)
    (special : conversion.isStr = false)
    (apart : conversion = .usrmsg → rest.head? ≠ some 115) :
    parseConversion (conversion.letters ++ rest) count = .ok ((conversion.withCache count).1, rest, (conversion.withCache count).2) := by
  cases conversion with
  | str text => cases special
  | time timeFmt index =>
      have parsed := time_parsed timeFmt rest count sayable.1 sayable.2
      simpa [Conversion.letters, Conversion.withCache, parseTime] using parsed
  | mdc mdcKey =>
      have parsed := mdc_parsed mdcKey rest count sayable.1 sayable.2
      simpa [Conversion.letters, Conversion.withCache] using parsed
  | usrmsg => exact usrmsg_parsed rest count (apart rfl)
  | _ => rfl

theorem letters_head (conversion : Conversion) (special : conversion.isStr = false) :
    ∃ first others, conversion.letters = first :: others ∧ isFmtByte first = false := by
  cases conversion with
  | str text => cases special
  | time timeFmt index => exact ⟨100, 40 :: (timeFmt ++ [41]), rfl, rfl⟩
  | mdc mdcKey => exact ⟨77, 40 :: (mdcKey ++ [41]), rfl, rfl⟩
  | _ => exact ⟨_, _, rfl, rfl⟩

theorem print_fmt_bytes (adjust : Adjust) : ∀ byte ∈ adjust.printFmt, isFmtByte byte = true := by
  intro byte member
  rw [Adjust.printFmt, List.mem_append, List.mem_append, List.mem_cons] at member
  rcases member with sign | low | dot | high
  · by_cases left : adjust.leftAdjust = true
    · rw [if_pos left, List.mem_singleton] at sign
      rw [sign]
      rfl
    · rw [if_neg left] at sign
      cases sign
  · rw [isFmtByte, decimal_digits adjust.minWidth byte low]
    simp
  · rw [dot]
    rfl
  · rw [isFmtByte, decimal_digits adjust.maxWidth byte high]
    simp

theorem print_fmt_some (adjust : Adjust) : adjust.printFmt ≠ [] := by
  simp [Adjust.printFmt]

theorem spec_new_special (spec : Spec) (rest : Bytes) (count : Nat) (sayable : spec.Sayable) (special : spec.conversion.isStr = false)
    (apart : spec.conversion = .usrmsg → rest.head? ≠ some 115) :
    specNew (spec.print ++ rest) count =
      .ok ({ spec with conversion := (spec.conversion.withCache count).1 }, rest, (spec.conversion.withCache count).2) := by
  obtain ⟨conversion, adjust⟩ := spec
  obtain ⟨first, others, letters, stops⟩ := letters_head conversion special
  have parsed := letters_parsed conversion rest count sayable.conversion special apart
  have body : (⟨conversion, adjust⟩ : Spec).print ++ rest =
      37 :: ((adjust.map Adjust.printFmt).getD [] ++ (conversion.letters ++ rest)) := by
    simp [Spec.print, special]
  rw [body, specNew, List.head?_cons, if_pos rfl, List.tail_cons]
  cases adjust with
  | none =>
      have unadjusted : (conversion.letters ++ rest).takeWhile isFmtByte = [] ∧
          (conversion.letters ++ rest).dropWhile isFmtByte = conversion.letters ++ rest := by
        rw [letters]
        simp [stops]
      simp only [Option.map_none, Option.getD_none, List.nil_append, unadjusted, parsed, if_true]
      rfl
  | some adjust =>
      have spelled : (adjust.printFmt ++ (conversion.letters ++ rest)).takeWhile isFmtByte = adjust.printFmt ∧
          (adjust.printFmt ++ (conversion.letters ++ rest)).dropWhile isFmtByte = conversion.letters ++ rest := by
        rw [List.takeWhile_append_of_pos (print_fmt_bytes adjust), List.dropWhile_append_of_pos (print_fmt_bytes adjust), letters]
        simp [stops]
      obtain ⟨minBound, maxBound⟩ := sayable.widths adjust rfl
      simp only [Option.map_some, Option.getD_some, spelled, parsed, if_neg (print_fmt_some adjust),
        parse_print_fmt adjust minBound maxBound]
      rfl

theorem spec_new_str (text rest : Bytes) (count : Nat) (nonempty : text ≠ []) (clear : ∀ byte ∈ text, byte ≠ 37)
    (ends : ∀ byte ∈ rest.head?, byte = 37) : specNew (text ++ rest) count = .ok (⟨.str text, none⟩, rest, count) := by
  have inside : ∀ byte ∈ text, (byte != 37) = true := by
    intro byte member
    simpa using clear byte member
  have head : (text ++ rest).head? ≠ some 37 := by
    obtain ⟨first, others, rfl⟩ := List.exists_cons_of_ne_nil nonempty
    simpa using clear first List.mem_cons_self
  have stops : rest.takeWhile (· != 37) = [] ∧ rest.dropWhile (· != 37) = rest := by
    cases rest with
    | nil => exact ⟨rfl, rfl⟩
    | cons byte others =>
        rw [ends byte rfl]
        simp
  rw [specNew, if_neg head, List.takeWhile_append_of_pos inside, List.dropWhile_append_of_pos inside, stops.1, stops.2, List.append_nil]

theorem printed_head (spec : Spec) (specs : List Spec) (sayable : ∀ other ∈ specs, other.Sayable)
    (chain : (spec :: specs).IsChain Spec.Before) :
    (spec.conversion.isStr = true → ∀ byte ∈ (specs.flatMap Spec.print).head?, byte = 37) ∧
      (spec.conversion = .usrmsg → (specs.flatMap Spec.print).head? ≠ some 115) := by
  cases specs with
  | nil => simp
  | cons next rest =>
      have before := (List.isChain_cons_cons.mp chain).1
      cases kind : next.conversion.isStr with
      | false =>
          have printed : ∃ others, next.print = 37 :: others := ⟨_, by rw [Spec.print, kind]; rfl⟩
          obtain ⟨others, printed⟩ := printed
          simp [printed]
      | true =>
          obtain ⟨text, named⟩ : ∃ text, next.conversion = .str text := by
            cases shape : next.conversion with
            | str text => exact ⟨text, rfl⟩
            | _ =>
                rw [shape] at kind
                cases kind
          obtain ⟨special, apart⟩ := before text named
          have nonempty : text ≠ [] := by
            have said := (sayable next List.mem_cons_self).conversion
            rw [named] at said
            exact said.1
          obtain ⟨first, others, rfl⟩ := List.exists_cons_of_ne_nil nonempty
          have printed : next.print = first :: others := by
            rw [Spec.print, kind, if_pos rfl, named]
            rfl
          refine ⟨fun wrong => ?_, fun message => ?_⟩
          · rw [special] at wrong
            cases wrong
          · simpa [printed] using apart message

theorem spec_new_print (spec : Spec) (specs : List Spec) (sayable : ∀ other ∈ spec :: specs, other.Sayable)
    (chain : (spec :: specs).IsChain Spec.Before) (count : Nat) :
    specNew (spec.print ++ specs.flatMap Spec.print) count =
      .ok ({ spec with conversion := (spec.conversion.withCache count).1 }, specs.flatMap Spec.print,
        (spec.conversion.withCache count).2) := by
  have said := sayable spec List.mem_cons_self
  obtain ⟨ends, apart⟩ := printed_head spec specs (fun other member => sayable other (List.mem_cons_of_mem _ member)) chain
  cases kind : spec.conversion.isStr with
  | false => exact spec_new_special spec (specs.flatMap Spec.print) count said kind apart
  | true =>
      have direct := said.direct kind
      obtain ⟨conversion, adjust⟩ := spec
      cases conversion with
      | str text =>
          simp only at direct
          subst direct
          exact spec_new_str text (specs.flatMap Spec.print) count said.conversion.1 said.conversion.2 (ends kind)
      | _ => cases kind

theorem print_nonempty (spec : Spec) (said : spec.Sayable) : ∃ first others, spec.print = first :: others := by
  by_cases kind : spec.conversion.isStr = true
  · obtain ⟨conversion, adjust⟩ := spec
    cases conversion with
    | str text =>
        obtain ⟨first, others, rfl⟩ := List.exists_cons_of_ne_nil said.conversion.1
        exact ⟨first, others, rfl⟩
    | _ => cases kind
  · exact ⟨_, _, by rw [Spec.print, if_neg kind]⟩

theorem printed_specs (specs : List Spec) (sayable : ∀ spec ∈ specs, spec.Sayable) (chain : specs.IsChain Spec.Before) (rounds count : Nat)
    (enough : (specs.flatMap Spec.print).length ≤ rounds) :
    patternSpecs rounds (specs.flatMap Spec.print) count = .ok (withCaches count specs) := by
  induction specs generalizing rounds count with
  | nil =>
      rw [List.flatMap_nil, patternSpecs]
      rfl
  | cons spec rest ih =>
      have parsed := spec_new_print spec rest sayable chain count
      obtain ⟨first, others, printed⟩ := print_nonempty spec (sayable spec List.mem_cons_self)
      rw [List.flatMap_cons, printed, List.cons_append] at enough ⊢
      rw [printed, List.cons_append] at parsed
      cases rounds with
      | zero => simp at enough
      | succ rounds =>
          have fewer : (rest.flatMap Spec.print).length ≤ rounds := by
            simp only [List.length_cons, List.length_append] at enough
            omega
          have later := ih (fun other member => sayable other (List.mem_cons_of_mem _ member)) chain.tail rounds
            (spec.conversion.withCache count).2 fewer
          rw [patternSpecs, parsed]
          simp only [bind, Except.bind, later]
          rfl

end Printed

-- The texts that zlog_format_new takes as they are: no percent sign is followed by a key of
-- the environment, or by nothing that could be told from one.
def envFree : Bytes → Bool
  | [] => true
  | byte :: rest => (byte != 37 || (scanEnvKey (rest.dropWhile isFmtByte)).isNone) && envFree rest

structure Plain (text : Bytes) : Prop where
  short : text.length ≤ 4096
  ended : ∀ byte ∈ text, byte ≠ 0
  env : envFree text = true

section Environment

theorem c_string_iff (array text : Bytes) (place : Nat) :
    cString array place = some text ↔ (∀ byte ∈ text, byte ≠ 0) ∧ ∃ tail, array.drop place = text ++ 0 :: tail := by
  constructor
  · intro found
    unfold cString at found
    split at found
    · cases found
    · rename_i ended
      cases found
      refine ⟨fun byte member => by simpa using List.mem_takeWhile_imp member, ?_⟩
      obtain ⟨zero, tail, left⟩ := List.exists_cons_of_ne_nil ended
      have stops := List.head?_dropWhile_not (· != 0) (array.drop place)
      rw [left] at stops
      have same : zero = 0 := by simpa using stops
      refine ⟨tail, ?_⟩
      rw [← same, ← left]
      exact List.takeWhile_append_dropWhile.symm
  · intro ended
    obtain ⟨nonzero, tail, same⟩ := ended
    have inside : ∀ byte ∈ text, (byte != 0) = true := by
      intro byte member
      simpa using nonzero byte member
    rw [cString, cstr, same, List.dropWhile_append_of_pos inside, List.takeWhile_append_of_pos inside]
    simp

theorem c_string_later (array front text : Bytes) (place : Nat) (found : cString array place = some (front ++ text)) :
    cString array (place + front.length) = some text := by
  obtain ⟨nonzero, tail, same⟩ := (c_string_iff array (front ++ text) place).mp found
  refine (c_string_iff array text (place + front.length)).mpr ⟨fun byte member => nonzero byte (List.mem_append_right _ member), tail, ?_⟩
  rw [← List.drop_drop, same, List.append_assoc, List.drop_left]

theorem env_free_append (front text : Bytes) (free : envFree (front ++ text) = true) : envFree text = true := by
  induction front with
  | nil => exact free
  | cons byte rest ih =>
      rw [List.cons_append, envFree, Bool.and_eq_true] at free
      exact ih free.2

theorem replace_env_free (printEnv : Bytes → Bytes → Option Bytes) (rounds : Nat) (str text : Bytes) (strLen : Int) (start : Nat)
    (found : cString str start = some text) (free : envFree text = true) (enough : text.length < rounds) :
    replaceEnvFrom printEnv rounds str strLen start = .ok str := by
  induction rounds generalizing text start with
  | zero => cases enough
  | succ rounds ih =>
      have split : text.takeWhile (· != 37) ++ text.dropWhile (· != 37) = text := List.takeWhile_append_dropWhile
      have stops := List.head?_dropWhile_not (· != 37) text
      rw [replaceEnvFrom, found]
      dsimp only
      cases left : text.dropWhile (· != 37) with
      | nil => rfl
      | cons percent after =>
          rw [left] at split stops
          have sign : percent = 37 := by simpa using stops
          have fmt : after.takeWhile isFmtByte ++ after.dropWhile isFmtByte = after := List.takeWhile_append_dropWhile
          have later := env_free_append _ _ (split.symm ▸ free)
          rw [envFree, Bool.and_eq_true] at later
          have unkeyed : scanEnvKey (after.dropWhile isFmtByte) = none := by simpa [sign] using later.1
          have parts : (text.takeWhile (· != 37) ++ percent :: after.takeWhile isFmtByte) ++ after.dropWhile isFmtByte = text := by
            rw [List.append_assoc, List.cons_append, fmt, split]
          have next := c_string_later str (text.takeWhile (· != 37) ++ percent :: after.takeWhile isFmtByte) _ start (parts.symm ▸ found)
          have place : start + (text.takeWhile (· != 37) ++ percent :: after.takeWhile isFmtByte).length =
              start + (text.takeWhile (· != 37)).length + 1 + (after.takeWhile isFmtByte).length := by
            rw [List.length_append, List.length_cons]
            omega
          rw [place] at next
          have fewer : (after.dropWhile isFmtByte).length < rounds := by
            have total := congrArg List.length parts
            rw [List.length_append, List.length_append, List.length_cons] at total
            omega
          simp only [unkeyed]
          exact ih _ _ next (env_free_append _ _ (parts.symm ▸ free)) fewer

theorem format_pattern_plain (printEnv : Bytes → Bytes → Option Bytes) (text : Bytes) (plain : Plain text) (count : Nat) :
    formatPattern printEnv text count = parsePattern text count := by
  have short := plain.short
  have zeros : List.replicate (4097 - text.length) (0 : UInt8) = 0 :: List.replicate (4096 - text.length) 0 := by
    rw [← List.replicate_succ]
    congr 1
    omega
  have whole : cString (text ++ List.replicate (4097 - text.length) 0) 0 = some text :=
    (c_string_iff _ text 0).mpr ⟨plain.ended, _, by rw [List.drop_zero, zeros]⟩
  have kept : strReplaceEnv printEnv (text ++ List.replicate (4097 - text.length) 0) =
      .ok (text ++ List.replicate (4097 - text.length) 0) := by
    rw [strReplaceEnv, whole]
    apply replace_env_free printEnv _ _ text _ 0 whole plain.env
    rw [List.length_append]
    omega
  rw [formatPattern, if_neg (by omega), kept]
  simp only [bind, Except.bind, whole]

end Environment

theorem pattern_round_trip (printEnv : Bytes → Bytes → Option Bytes) (specs : List Spec) (sayable : ∀ spec ∈ specs, spec.Sayable)
    (chain : specs.IsChain Spec.Before) (plain : Plain (specs.flatMap Spec.print)) (count : Nat) :
    formatPattern printEnv (specs.flatMap Spec.print) count = .ok (withCaches count specs) := by
  rw [format_pattern_plain printEnv _ plain]
  exact printed_specs specs sayable chain _ count (Nat.le_refl _)

def smallSpecs : List Spec :=
  [⟨.time [37, 84] 0, none⟩, ⟨.str [32], none⟩, ⟨.usrmsg, some ⟨true, 5, 10⟩⟩, ⟨.mdc [105, 100], none⟩]

theorem small_sayable (spec : Spec) (member : spec ∈ smallSpecs) : spec.Sayable := by
  simp only [smallSpecs, List.mem_cons, List.not_mem_nil, or_false] at member
  rcases member with rfl | rfl | rfl | rfl
  · exact ⟨⟨by simp, by simp⟩, by simp, by simp⟩
  · exact ⟨⟨by simp, by simp⟩, by simp, by simp⟩
  · refine ⟨trivial, by simp [Conversion.isStr], fun adjust same => ?_⟩
    cases same
    exact ⟨by simp, by simp⟩
  · exact ⟨⟨by simp, by simp⟩, by simp, by simp⟩

theorem small_chain : smallSpecs.IsChain Spec.Before := by
  simp [smallSpecs, Spec.Before, Conversion.isStr]

theorem pattern_round_trip_small : formatPattern (fun _ _ => none) (ascii "%d(%T) %-5.10m%M(id)") 0 = .ok (smallSpecs, 1) := by
  have printed : smallSpecs.flatMap Spec.print = ascii "%d(%T) %-5.10m%M(id)" := by decide
  have plain : Plain (smallSpecs.flatMap Spec.print) := by
    rw [printed]
    exact ⟨by decide +kernel, by decide +kernel, by decide +kernel⟩
  have back := pattern_round_trip (fun _ _ => none) smallSpecs small_sayable small_chain plain 0
  rw [printed] at back
  exact back

section Caches

theorem parse_letter_cache (letter : UInt8) (text rest : Bytes) (count after : Nat) (conversion : Conversion)
    (parsed : parseLetter letter text count = .ok (conversion, rest, after)) : conversion.withCache count = (conversion, after) := by
  unfold parseLetter at parsed
  split at parsed
  all_goals first | cases parsed; rfl | cases parsed

theorem parse_conversion_cache (text rest : Bytes) (count after : Nat) (conversion : Conversion)
    (parsed : parseConversion text count = .ok (conversion, rest, after)) : conversion.withCache count = (conversion, after) := by
  unfold parseConversion at parsed
  split at parsed
  · cases parsed
    rfl
  · rename_i inside _
    cases scanned : bracketed inside with
    | error error =>
        rw [scanned] at parsed
        cases parsed
    | ok found =>
        rw [scanned] at parsed
        cases parsed
        rfl
  · cases parsed
    rfl
  · rename_i inside
    by_cases long : 1024 < (inside.takeWhile (· != 41)).length
    · rw [if_pos long] at parsed
      cases parsed
    · rw [if_neg long] at parsed
      cases scanned : bracketed inside with
      | error error =>
          rw [scanned] at parsed
          cases parsed
      | ok found =>
          rw [scanned] at parsed
          cases parsed
          rfl
  · cases parsed
    rfl
  · cases parsed
    rfl
  · exact parse_letter_cache _ _ rest count after conversion parsed
  · cases parsed

theorem spec_new_cache (pattern rest : Bytes) (count after : Nat) (spec : Spec) (parsed : specNew pattern count = .ok (spec, rest, after)) :
    spec.conversion.withCache count = (spec.conversion, after) := by
  by_cases special : pattern.head? = some 37
  · rw [specNew, if_pos special] at parsed
    cases scanned : parseConversion (pattern.tail.dropWhile isFmtByte) count with
    | error error =>
        simp only [scanned, bind, Except.bind] at parsed
        cases parsed
    | ok found =>
        simp only [scanned, bind, Except.bind] at parsed
        cases parsed
        exact parse_conversion_cache _ _ count _ _ scanned
  · rw [specNew, if_neg special] at parsed
    cases parsed
    rfl

theorem pattern_specs_caches (rounds : Nat) (pattern : Bytes) (count after : Nat) (specs : List Spec)
    (parsed : patternSpecs rounds pattern count = .ok (specs, after)) : withCaches count specs = (specs, after) := by
  induction rounds generalizing pattern count specs with
  | zero =>
      cases pattern with
      | nil =>
          rw [patternSpecs] at parsed
          cases parsed
          rfl
      | cons byte rest =>
          rw [patternSpecs] at parsed
          cases parsed
  | succ rounds ih =>
      cases pattern with
      | nil =>
          rw [patternSpecs] at parsed
          cases parsed
          rfl
      | cons byte rest =>
          rw [patternSpecs] at parsed
          cases first : specNew (byte :: rest) count with
          | error error =>
              simp only [first, bind, Except.bind] at parsed
              cases parsed
          | ok found =>
              obtain ⟨spec, left, middle⟩ := found
              cases later : patternSpecs rounds left middle with
              | error error =>
                  simp only [first, later, bind, Except.bind] at parsed
                  cases parsed
              | ok others =>
                  simp only [first, later, bind, Except.bind] at parsed
                  cases parsed
                  have here := spec_new_cache _ left count middle spec first
                  have there := ih left middle others.1 later
                  rw [withCaches, here]
                  simp only [there]

def Conversion.cache : Conversion → Option (Bytes × Nat)
  | .time timeFmt index => some (timeFmt, index)
  | _ => none

def caches (specs : List Spec) : List (Bytes × Nat) := specs.filterMap fun spec => spec.conversion.cache

theorem with_caches_numbered (specs : List Spec) (count after : Nat) (numbered : withCaches count specs = (specs, after)) :
    caches specs = ((caches specs).map Prod.fst).zipIdx count ∧ after = count + (caches specs).length := by
  induction specs generalizing count with
  | nil =>
      cases numbered
      exact ⟨rfl, rfl⟩
  | cons spec rest ih =>
      obtain ⟨conversion, adjust⟩ := spec
      rw [withCaches] at numbered
      obtain ⟨both, total⟩ := Prod.mk.inj numbered
      obtain ⟨first, others⟩ := List.cons.inj both
      have kept : (conversion.withCache count).1 = conversion := congrArg Spec.conversion first
      obtain ⟨order, sum⟩ := ih (conversion.withCache count).2 (Prod.ext others total)
      cases conversion with
      | time timeFmt index =>
          cases kept
          have cons : caches (⟨.time timeFmt count, adjust⟩ :: rest) = (timeFmt, count) :: caches rest := rfl
          simp only [Conversion.withCache] at order sum
          rw [cons, List.map_cons, List.zipIdx_cons, ← order, List.length_cons, sum]
          exact ⟨rfl, by omega⟩
      | _ =>
          simp only [Conversion.withCache] at order sum
          exact ⟨order, sum⟩

theorem patterns_caches (patterns : List Bytes) (count after : Nat) (lists : List (List Spec))
    (parsed : parsePatterns patterns count = .ok (lists, after)) :
    caches lists.flatten = ((caches lists.flatten).map Prod.fst).zipIdx count ∧ after = count + (caches lists.flatten).length := by
  induction patterns generalizing count lists with
  | nil =>
      rw [parsePatterns] at parsed
      cases parsed
      exact ⟨rfl, rfl⟩
  | cons pattern rest ih =>
      rw [parsePatterns] at parsed
      cases first : parsePattern pattern count with
      | error error =>
          simp only [first, bind, Except.bind] at parsed
          cases parsed
      | ok found =>
          obtain ⟨specs, middle⟩ := found
          cases later : parsePatterns rest middle with
          | error error =>
              simp only [first, later, bind, Except.bind] at parsed
              cases parsed
          | ok others =>
              simp only [first, later, bind, Except.bind] at parsed
              cases parsed
              obtain ⟨order, sum⟩ := with_caches_numbered specs count middle (pattern_specs_caches _ pattern count middle specs first)
              obtain ⟨laterOrder, laterSum⟩ := ih middle others.1 later
              have joined : caches (specs :: others.1).flatten = caches specs ++ caches others.1.flatten := by
                rw [List.flatten_cons, caches, List.filterMap_append]
                rfl
              rw [joined, List.map_append, List.zipIdx_append, List.length_map, ← order, ← sum, ← laterOrder,
                List.length_append]
              exact ⟨rfl, by omega⟩

end Caches

-- The times of all the patterns of a conf have the caches one after the other, so each has
-- its own and the thread has just enough of them.
theorem conf_caches (patterns : List Bytes) (lists : List (List Spec)) (timeCacheCount : Nat)
    (parsed : parsePatterns patterns 0 = .ok (lists, timeCacheCount)) :
    ∃ fmts, fmts.length = timeCacheCount ∧ caches lists.flatten = fmts.zipIdx ∧
      ∀ specs ∈ lists, ∀ spec ∈ specs, spec.conversion.Indexed fmts := by
  obtain ⟨order, sum⟩ := patterns_caches patterns 0 timeCacheCount lists parsed
  refine ⟨(caches lists.flatten).map Prod.fst, by rw [List.length_map]; omega, order, ?_⟩
  intro specs member spec inside
  cases conversion : spec.conversion with
  | time timeFmt index =>
      have held : (timeFmt, index) ∈ caches lists.flatten :=
        List.mem_filterMap.mpr ⟨spec, List.mem_flatten.mpr ⟨specs, member, inside⟩, by rw [conversion]; rfl⟩
      rw [order] at held
      exact List.mem_zipIdx_iff_getElem?.mp held
  | _ => trivial

theorem conf_caches_two :
    ∃ (lists : List (List Spec)) (fmts : List Bytes), parsePatterns [ascii "%d %m%n", ascii "log.%D-%d(%H)"] 0 =
        .ok (lists, 3) ∧ fmts.length = 3 ∧
      caches lists.flatten = fmts.zipIdx := by
  obtain ⟨lists, parsed⟩ : ∃ lists, parsePatterns [ascii "%d %m%n", ascii "log.%D-%d(%H)"] 0 = .ok (lists, 3) := ⟨_, rfl⟩
  obtain ⟨fmts, count, order, _⟩ := conf_caches _ lists 3 parsed
  exact ⟨lists, fmts, parsed, count, order⟩

end Zlog
