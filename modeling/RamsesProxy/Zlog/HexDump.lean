import RamsesProxy.Zlog.BufWrites

set_option autoImplicit false

namespace Zlog

open CText

namespace Hex

def cellText (hexBuf : Bytes) (offset : Nat) : Bytes :=
  match hexBuf[offset]? with
  | some byte => [hexDigit (byte.toNat / 16), hexDigit (byte.toNat % 16), 32]
  | none => [32, 32, 32]

def charText (hexBuf : Bytes) (offset : Nat) : UInt8 :=
  match hexBuf[offset]? with
  | some byte => if 32 ≤ byte ∧ byte ≤ 126 then byte else 46
  | none => 32

def lineText (hexBuf : Bytes) (lineOffset : Nat) : Bytes :=
  10 :: (padded 10 (lineOffset + 1) ++ ([32, 32, 32] ++
    ((List.range 16).flatMap (fun byteOffset => cellText hexBuf (lineOffset * 16 + byteOffset)) ++
    ([32, 32] ++ (List.range 16).map fun byteOffset => charText hexBuf (lineOffset * 16 + byteOffset)))))

def lineCount (length : Nat) : Nat := max 1 ((length + 15) / 16)

def text (hexBuf : Bytes) : Bytes := head ++ (List.range (lineCount hexBuf.length)).flatMap (lineText hexBuf)

section Text

variable (hexBuf : Bytes)

theorem hex_pair (byte : UInt8) : (Buf.Op.printfHex byte.toUInt32 2).text = [hexDigit (byte.toNat / 16), hexDigit (byte.toNat % 16)] := by
  have bound := byte.toNat_lt
  have same : byte.toUInt32.toNat = byte.toNat := UInt8.toNat_toUInt32 byte
  rw [Buf.Op.text, same]
  by_cases small : byte.toNat < 16
  · rw [hexadecimal_eq, if_pos small, Nat.div_eq_of_lt small, Nat.mod_eq_of_lt small]
    rfl
  · have high : byte.toNat / 16 < 16 := by omega
    rw [hexadecimal_eq, if_neg small, hexadecimal_eq, if_pos high, Nat.mod_eq_of_lt high]
    rfl

theorem cell_text (offset : Nat) : (cell hexBuf offset).flatMap Buf.Op.text = cellText hexBuf offset := by
  rw [cell, cellText]
  cases hexBuf[offset]? with
  | none => rfl
  | some byte =>
      simp only [List.flatMap_cons, List.flatMap_nil, List.append_nil, hex_pair]
      rfl

theorem char_text (offset : Nat) : (char hexBuf offset).text = [charText hexBuf offset] := by
  rw [char, charText]
  cases hexBuf[offset]? with
  | none => rfl
  | some byte =>
      by_cases shown : 32 ≤ byte ∧ byte ≤ 126
      · simp only [if_pos shown, Buf.Op.text]
      · simp only [if_neg shown]
        rfl

theorem line_text (lineOffset : Nat) (bound : lineOffset + 1 < 2 ^ 64) :
    (line hexBuf lineOffset).flatMap Buf.Op.text = lineText hexBuf lineOffset := by
  have number : (UInt64.ofNat (lineOffset + 1)).toNat = lineOffset + 1 := UInt64.toNat_ofNat_of_lt' bound
  have cells : ((List.range 16).flatMap fun byteOffset => cell hexBuf (lineOffset * 16 + byteOffset)).flatMap Buf.Op.text =
      (List.range 16).flatMap fun byteOffset => cellText hexBuf (lineOffset * 16 + byteOffset) := by
    rw [List.flatMap_assoc]
    congr 1
    funext byteOffset
    exact cell_text hexBuf _
  have chars : ((List.range 16).map fun byteOffset => char hexBuf (lineOffset * 16 + byteOffset)).flatMap Buf.Op.text =
      (List.range 16).map fun byteOffset => charText hexBuf (lineOffset * 16 + byteOffset) := by
    rw [List.flatMap_map, List.map_eq_flatMap]
    congr 1
    funext byteOffset
    exact char_text hexBuf _
  rw [line, List.flatMap_append, List.flatMap_append, List.flatMap_append, cells, chars, lineText]
  simp only [List.flatMap_cons, List.flatMap_nil, Buf.Op.text, number, List.append_nil, List.append_assoc]
  rfl

theorem lines_text (rounds lineOffset : Nat) (enough : hexBuf.length ≤ (lineOffset + rounds) * 16) (some : 0 < rounds)
    (bound : hexBuf.length < 2 ^ 64) (begun : lineOffset = 0 ∨ lineOffset * 16 < hexBuf.length) :
    (lines hexBuf rounds lineOffset).flatMap Buf.Op.text =
      ((List.range (lineCount hexBuf.length)).drop lineOffset).flatMap (lineText hexBuf) := by
  induction rounds generalizing lineOffset with
  | zero => omega
  | succ rounds ih =>
      have within : lineOffset < lineCount hexBuf.length := by
        rw [lineCount]
        omega
      have first : (List.range (lineCount hexBuf.length)).drop lineOffset =
          lineOffset :: (List.range (lineCount hexBuf.length)).drop (lineOffset + 1) := by
        rw [List.drop_eq_getElem_cons (by simpa using within), List.getElem_range]
      rw [lines, List.flatMap_append, line_text hexBuf lineOffset (by omega), first, List.flatMap_cons]
      by_cases last : hexBuf.length ≤ lineOffset * 16 + 16
      · have tooLong : lineCount hexBuf.length ≤ lineOffset + 1 := by
          rw [lineCount]
          omega
        rw [if_pos last, List.drop_of_length_le (by simpa using tooLong)]
        rfl
      · rw [if_neg last, ih (lineOffset + 1) (by omega) (by omega) (by omega)]

theorem dump_text (bound : hexBuf.length < 2 ^ 64) : (dump hexBuf).flatMap Buf.Op.text = text hexBuf := by
  rw [dump, List.flatMap_cons, lines_text hexBuf _ 0 (by omega) (by omega) bound (.inl rfl), List.drop_zero, text]
  rfl

theorem cell_writes (offset : Nat) (op : Buf.Op) (member : op ∈ cell hexBuf offset) : op ≠ .restart ∧ op ≠ .vprintf none := by
  rw [cell] at member
  cases found : hexBuf[offset]? with
  | none =>
      rw [found, List.mem_singleton] at member
      rw [member]
      simp
  | some byte =>
      rw [found, List.mem_cons, List.mem_singleton] at member
      cases member with
      | inl digits =>
          rw [digits]
          simp
      | inr blank =>
          rw [blank]
          simp

theorem char_writes (offset : Nat) : char hexBuf offset ≠ .restart ∧ char hexBuf offset ≠ .vprintf none := by
  rw [char]
  cases hexBuf[offset]? with
  | none => simp
  | some byte =>
      by_cases shown : 32 ≤ byte ∧ byte ≤ 126
      · simp only [if_pos shown]
        simp
      · simp only [if_neg shown]
        simp

theorem line_writes (lineOffset : Nat) (op : Buf.Op) (member : op ∈ line hexBuf lineOffset) : op ≠ .restart ∧ op ≠ .vprintf none := by
  rw [line, List.mem_append, List.mem_append, List.mem_append] at member
  rcases member with ((opening | cells) | gap) | chars
  · simp only [List.mem_cons, List.not_mem_nil, or_false] at opening
    rcases opening with rfl | rfl | rfl
    · simp
    · simp
    · simp
  · obtain ⟨byteOffset, _, inCell⟩ := List.mem_flatMap.mp cells
    exact cell_writes hexBuf _ op inCell
  · rw [List.mem_singleton.mp gap]
    simp
  · obtain ⟨byteOffset, _, rfl⟩ := List.mem_map.mp chars
    exact char_writes hexBuf _

theorem lines_writes (rounds lineOffset : Nat) (op : Buf.Op) (member : op ∈ lines hexBuf rounds lineOffset) :
    op ≠ .restart ∧ op ≠ .vprintf none := by
  induction rounds generalizing lineOffset with
  | zero => cases member
  | succ rounds ih =>
      rw [lines, List.mem_append] at member
      cases member with
      | inl here => exact line_writes hexBuf lineOffset op here
      | inr later =>
          by_cases last : hexBuf.length ≤ lineOffset * 16 + 16
          · rw [if_pos last] at later
            cases later
          · rw [if_neg last] at later
            exact ih (lineOffset + 1) later

theorem dump_writes (op : Buf.Op) (member : op ∈ dump hexBuf) : op ≠ .restart ∧ op ≠ .vprintf none := by
  cases List.mem_cons.mp member with
  | inl heading =>
      rw [heading]
      simp
  | inr later => exact lines_writes hexBuf _ 0 op later

end Text

section Lines

variable (hexBuf : Bytes)

def lineOf (number : Nat) (bytes : Bytes) : Bytes :=
  10 :: (padded 10 number ++ ([32, 32, 32] ++
    ((List.range' 0 16).flatMap (cellText bytes) ++ ([32, 32] ++ (List.range' 0 16).map (charText bytes)))))

def linesOf (lineOffset : Nat) (bytes : Bytes) : Bytes :=
  (List.range (lineCount bytes.length)).flatMap fun index => lineOf (lineOffset + index + 1) ((bytes.drop (index * 16)).take 16)

theorem line_of_chunk (lineOffset : Nat) :
    lineText hexBuf lineOffset = lineOf (lineOffset + 1) ((hexBuf.drop (lineOffset * 16)).take 16) := by
  have same (byteOffset : Nat) (inside : byteOffset < 16) :
      ((hexBuf.drop (lineOffset * 16)).take 16)[byteOffset]? = hexBuf[lineOffset * 16 + byteOffset]? := by
    rw [List.getElem?_take_of_lt inside, List.getElem?_drop]
  have cells : (List.range 16).flatMap (fun byteOffset => cellText hexBuf (lineOffset * 16 + byteOffset)) =
      (List.range' 0 16).flatMap (cellText ((hexBuf.drop (lineOffset * 16)).take 16)) := by
    rw [List.range_eq_range']
    apply List.flatMap_congr
    intro byteOffset member
    rw [cellText, cellText, same byteOffset (by simpa using List.mem_range'_1.mp member)]
  have chars : (List.range 16).map (fun byteOffset => charText hexBuf (lineOffset * 16 + byteOffset)) =
      (List.range' 0 16).map (charText ((hexBuf.drop (lineOffset * 16)).take 16)) := by
    rw [List.range_eq_range']
    apply List.map_congr_left
    intro byteOffset member
    rw [charText, charText, same byteOffset (by simpa using List.mem_range'_1.mp member)]
  rw [lineText, lineOf, cells, chars]

theorem text_lines : text hexBuf = head ++ linesOf 0 hexBuf := by
  rw [text, linesOf]
  congr 2
  funext lineOffset
  rw [line_of_chunk, Nat.zero_add]

theorem lines_of_last (lineOffset : Nat) (bytes : Bytes) (short : bytes.length ≤ 16) :
    linesOf lineOffset bytes = lineOf (lineOffset + 1) bytes := by
  have one : lineCount bytes.length = 1 := by
    rw [lineCount]
    omega
  rw [linesOf, one]
  simp [List.range_succ, List.take_of_length_le short]

theorem lines_of_more (lineOffset : Nat) (bytes : Bytes) (long : 16 < bytes.length) :
    linesOf lineOffset bytes = lineOf (lineOffset + 1) (bytes.take 16) ++ linesOf (lineOffset + 1) (bytes.drop 16) := by
  have more : lineCount bytes.length = lineCount (bytes.drop 16).length + 1 := by
    rw [lineCount, lineCount, List.length_drop]
    omega
  rw [linesOf, more, List.range_succ_eq_map, List.flatMap_cons, List.flatMap_map, linesOf, Nat.add_zero, Nat.zero_mul, List.drop_zero]
  congr 2
  funext index
  rw [List.drop_drop, Nat.add_right_comm lineOffset 1 index, Nat.succ_mul, Nat.add_comm (index * 16) 16]
  rfl

theorem line_length (number : Nat) (bytes : Bytes) : 16 < (lineOf number bytes).length := by
  simp only [lineOf, List.length_cons, List.length_append, List.length_map, List.length_range']
  omega

theorem lines_length (lineOffset : Nat) (bytes : Bytes) : bytes.length < (linesOf lineOffset bytes).length := by
  induction length : bytes.length using Nat.strong_induction_on generalizing lineOffset bytes with
  | _ length ih =>
      by_cases long : 16 < bytes.length
      · have line := line_length (lineOffset + 1) (bytes.take 16)
        have later := ih (bytes.drop 16).length (by rw [List.length_drop]; omega) (lineOffset + 1) (bytes.drop 16) rfl
        rw [lines_of_more lineOffset bytes long, List.length_append]
        rw [List.length_drop] at later
        omega
      · have line := line_length (lineOffset + 1) bytes
        rw [lines_of_last lineOffset bytes (by omega)]
        omega

end Lines

-- Reading a dump back. The bytes are those of the cells, up to the first that is blank, and
-- all that stands around them has to be what the line of these bytes shows.
def hexValue (digit : UInt8) : Nat := if digit ≤ 57 then digit.toNat - 48 else digit.toNat - 87

def readCells : Nat → Bytes → Bytes
  | cells + 1, high :: low :: _ :: rest => if high = 32 then [] else UInt8.ofNat (hexValue high * 16 + hexValue low) :: readCells cells rest
  | _, _ => []

def readLine (number : Nat) (text : Bytes) : Option (Bytes × Bytes) :=
  let bytes := readCells 16 (text.drop ((padded 10 number).length + 4))
  let line := lineOf number bytes
  if line.isPrefixOf text = true then some (bytes, text.drop line.length) else none

-- A line that is not the first has a byte, and one that is not the last has sixteen.
def readLines : Nat → Nat → Bytes → Option Bytes
  | 0, _, _ => none
  | rounds + 1, lineOffset, text => do
      let (bytes, rest) ← readLine (lineOffset + 1) text
      if bytes = [] ∧ lineOffset ≠ 0 then none
      else if rest = [] then some bytes
      else if bytes.length = 16 then (readLines rounds (lineOffset + 1) rest).map (bytes ++ ·)
      else none

def undump (text : Bytes) : Option Bytes :=
  if head.isPrefixOf text = true then readLines text.length 0 (text.drop head.length) else none

section Undump

theorem hex_value_digit (digit : Nat) (small : digit < 16) : hexValue (hexDigit digit) = digit ∧ hexDigit digit ≠ 32 := by
  match digit with
  | 0 | 1 | 2 | 3 | 4 | 5 | 6 | 7 | 8 | 9 | 10 | 11 | 12 | 13 | 14 | 15 => exact ⟨by decide, by decide⟩
  | larger + 16 => omega

theorem read_cells_length (cells : Nat) (text : Bytes) : (readCells cells text).length ≤ cells := by
  fun_induction readCells cells text with
  | case1 => exact Nat.zero_le _
  | case2 cells high low blank rest notBlank ih => exact Nat.succ_le_succ ih
  | case3 => exact Nat.zero_le _

theorem read_cells (bytes : Bytes) (cells offset : Nat) (tail : Bytes) :
    readCells cells ((List.range' offset cells).flatMap (cellText bytes) ++ tail) = (bytes.drop offset).take cells := by
  induction cells generalizing offset with
  | zero => simp [readCells]
  | succ cells ih =>
      rw [List.range'_succ, List.flatMap_cons, List.append_assoc]
      by_cases inside : offset < bytes.length
      · have byte := bytes[offset].toNat_lt
        obtain ⟨highValue, notBlank⟩ := hex_value_digit (bytes[offset].toNat / 16) (by omega)
        have lowValue := (hex_value_digit (bytes[offset].toNat % 16) (by omega)).1
        have whole : bytes[offset].toNat / 16 * 16 + bytes[offset].toNat % 16 = bytes[offset].toNat := by omega
        have cell : cellText bytes offset = [hexDigit (bytes[offset].toNat / 16), hexDigit (bytes[offset].toNat % 16), 32] := by
          rw [cellText, List.getElem?_eq_getElem inside]
        rw [cell]
        simp only [List.cons_append, List.nil_append, readCells, ih, if_neg notBlank, highValue, lowValue, whole, UInt8.ofNat_toNat]
        rw [List.drop_eq_getElem_cons inside, List.take_succ_cons]
      · have cell : cellText bytes offset = [32, 32, 32] := by
          rw [cellText, List.getElem?_eq_none (by omega)]
        rw [cell]
        simp only [List.cons_append, List.nil_append, readCells, if_true]
        rw [List.drop_of_length_le (by omega), List.take_nil]

theorem read_line_append (number : Nat) (bytes tail : Bytes) (short : bytes.length ≤ 16) :
    readLine number (lineOf number bytes ++ tail) = some (bytes, tail) := by
  have start : (lineOf number bytes ++ tail).drop ((padded 10 number).length + 4) =
      (List.range' 0 16).flatMap (cellText bytes) ++ (([32, 32] ++ (List.range' 0 16).map (charText bytes)) ++ tail) := by
    have front : lineOf number bytes ++ tail = (10 :: padded 10 number ++ [32, 32, 32]) ++
        ((List.range' 0 16).flatMap (cellText bytes) ++ (([32, 32] ++ (List.range' 0 16).map (charText bytes)) ++ tail)) := by
      simp [lineOf]
    rw [front]
    exact List.drop_left' (by simp)
  have read : readCells 16 ((lineOf number bytes ++ tail).drop ((padded 10 number).length + 4)) = bytes := by
    rw [start, read_cells, List.drop_zero, List.take_of_length_le short]
  simp only [readLine, read]
  rw [if_pos (List.isPrefixOf_iff_prefix.mpr (List.prefix_append _ _)), List.drop_left]

theorem read_line_some (number : Nat) (text bytes rest : Bytes) (read : readLine number text = some (bytes, rest)) :
    text = lineOf number bytes ++ rest ∧ bytes.length ≤ 16 := by
  simp only [readLine] at read
  split at read
  · rename_i starts
    cases read
    refine ⟨?_, read_cells_length _ _⟩
    exact (List.prefix_iff_eq_append.mp (List.isPrefixOf_iff_prefix.mp starts)).symm
  · cases read

theorem read_lines_some (rounds lineOffset : Nat) (text bytes : Bytes) (read : readLines rounds lineOffset text = some bytes) :
    text = linesOf lineOffset bytes ∧ (bytes = [] → lineOffset = 0) := by
  induction rounds generalizing lineOffset text bytes with
  | zero => cases read
  | succ rounds ih =>
      obtain ⟨⟨first, rest⟩, here, chosen⟩ := Option.bind_eq_some_iff.mp read
      obtain ⟨shown, short⟩ := read_line_some (lineOffset + 1) text first rest here
      by_cases blank : first = [] ∧ lineOffset ≠ 0
      · simp only [if_pos blank] at chosen
        cases chosen
      · simp only [if_neg blank] at chosen
        by_cases last : rest = []
        · simp only [if_pos last] at chosen
          cases chosen
          rw [last, List.append_nil] at shown
          refine ⟨shown.trans (lines_of_last lineOffset bytes short).symm, fun nothing => ?_⟩
          by_contra later
          exact blank ⟨nothing, later⟩
        · simp only [if_neg last] at chosen
          by_cases full : first.length = 16
          · simp only [if_pos full] at chosen
            obtain ⟨later, readLater, joined⟩ := Option.map_eq_some_iff.mp chosen
            obtain ⟨restShown, nonempty⟩ := ih (lineOffset + 1) rest later readLater
            have more : later ≠ [] := fun nothing => absurd (nonempty nothing) (Nat.succ_ne_zero _)
            have long : 16 < bytes.length := by
              have positive := List.length_pos_iff.mpr more
              rw [← joined, List.length_append]
              omega
            refine ⟨?_, fun nothing => ?_⟩
            · rw [lines_of_more lineOffset bytes long, ← joined, List.take_left' full, List.drop_left' full, ← restShown]
              exact shown
            · rw [nothing] at long
              cases long
          · simp only [if_neg full] at chosen
            cases chosen

theorem read_lines (rounds lineOffset : Nat) (bytes : Bytes) (enough : bytes.length < rounds) (begun : bytes = [] → lineOffset = 0) :
    readLines rounds lineOffset (linesOf lineOffset bytes) = some bytes := by
  induction rounds generalizing lineOffset bytes with
  | zero => cases enough
  | succ rounds ih =>
      have notBlank : ¬ (bytes = [] ∧ lineOffset ≠ 0) := fun blank => blank.2 (begun blank.1)
      by_cases long : 16 < bytes.length
      · have full : (bytes.take 16).length = 16 := by
          rw [List.length_take]
          omega
        have some : ¬ (bytes.take 16 = [] ∧ lineOffset ≠ 0) := by
          intro blank
          rw [blank.1] at full
          cases full
        have fewer : (bytes.drop 16).length < rounds := by
          rw [List.length_drop]
          omega
        have more : bytes.drop 16 ≠ [] := by
          intro nothing
          have short := List.drop_eq_nil_iff.mp nothing
          omega
        have rest : linesOf (lineOffset + 1) (bytes.drop 16) ≠ [] :=
          List.ne_nil_of_length_pos (Nat.zero_lt_of_lt (lines_length (lineOffset + 1) (bytes.drop 16)))
        rw [readLines, lines_of_more lineOffset bytes long, read_line_append _ _ _ (Nat.le_of_eq full)]
        simp only [Option.bind_eq_bind, Option.bind_some, if_neg some, if_neg rest, if_pos full]
        rw [ih (lineOffset + 1) (bytes.drop 16) fewer fun nothing => absurd nothing more, Option.map_some, List.take_append_drop]
      · have one := lines_of_last lineOffset bytes (by omega)
        have read := read_line_append (lineOffset + 1) bytes [] (by omega)
        rw [List.append_nil] at read
        rw [readLines, one, read]
        simp only [Option.bind_eq_bind, Option.bind_some, if_neg notBlank, if_true]

theorem undump_iff (text bytes : Bytes) : undump text = some bytes ↔ text = Hex.text bytes := by
  constructor
  · intro read
    rw [undump] at read
    split at read
    · rename_i starts
      have whole := List.prefix_iff_eq_append.mp (List.isPrefixOf_iff_prefix.mp starts)
      obtain ⟨shown, _⟩ := read_lines_some _ 0 _ bytes read
      rw [text_lines, ← shown]
      exact whole.symm
    · cases read
  · intro shown
    have starts : head.isPrefixOf (head ++ linesOf 0 bytes) = true := List.isPrefixOf_iff_prefix.mpr (List.prefix_append _ _)
    rw [shown, text_lines, undump, if_pos starts, List.drop_left]
    apply read_lines _ 0 bytes
    · have long := lines_length 0 bytes
      rw [List.length_append]
      omega
    · exact fun _ => rfl

end Undump

-- A dump that the buffer has room for can be read back from it, and from no other bytes
-- would the buffer show the same.
theorem dump_read_back (buf : Buf) (whole : Bytes) (holds : buf.Holds whole) (grants : Nat → Bool) (granted : ∀ count, grants count = true)
    (hexBuf : Bytes) (short : whole.length + (text hexBuf).length ≤ 2 ^ 60) :
    ∃ next rc, buf.performAll grants 0 (Usrmsg.hex hexBuf).ops = some (next, rc) ∧
      (rc = .success ↔ Bounded.Fits buf.limit (whole ++ text hexBuf).length) ∧
      (rc = .success → ∃ shown, next.content = some (whole ++ shown) ∧ ∀ bytes, undump shown = some bytes ↔ bytes = hexBuf) := by
  have long : hexBuf.length < (text hexBuf).length := by
    have lines := lines_length 0 hexBuf
    rw [text_lines, List.length_append]
    omega
  have asked := dump_text hexBuf (by omega)
  obtain ⟨next, rc, performed, all⟩ := Buf.perform_all_wrote grants granted (dump hexBuf) (dump_writes hexBuf) 0 buf whole holds
    (by rw [asked]; exact short)
  have holds := all.holds
  have success := all.success
  rw [asked] at holds success
  have some : text hexBuf ≠ [] := List.ne_nil_of_length_pos (Nat.zero_lt_of_lt long)
  have fits : rc = .success ↔ Bounded.Fits buf.limit (whole ++ text hexBuf).length := by
    rw [success]
    exact or_iff_right some
  refine ⟨next, rc, performed, fits, fun went => ⟨text hexBuf, ?_, fun bytes => ?_⟩⟩
  · obtain ⟨content, live⟩ := Option.ne_none_iff_exists'.mp holds.live
    have shown := holds.shows.shown
    rw [Buf.same_limit buf next all.conf, Bounded.shown_fits _ _ _ (fits.mp went), Buf.text, live, Option.getD_some] at shown
    rw [live, shown]
  · rw [undump_iff]
    constructor
    · intro same
      have other := (undump_iff (text bytes) hexBuf).mpr same.symm
      have own := (undump_iff (text bytes) bytes).mpr rfl
      exact Option.some.inj (own.symm.trans other)
    · intro same
      rw [same]

theorem dump_read_back_two :
    ∃ next shown, (⟨4, 0, 4, [], some (ascii "x")⟩ : Buf).performAll (fun _ => true) 0 (Usrmsg.hex [0, 255]).ops = some (next, .success) ∧
      next.content = some (ascii "x" ++ shown) ∧ undump shown = some [0, 255] := by
  have holds : (⟨4, 0, 4, [], some (ascii "x")⟩ : Buf).Holds (ascii "x") :=
    ⟨⟨⟨by decide, fun limited => absurd rfl limited, by simp⟩, rfl, by simp⟩, by simp, by decide, by decide⟩
  obtain ⟨next, rc, performed, fits, back⟩ := dump_read_back _ (ascii "x") holds (fun _ => true) (fun _ => rfl) [0, 255] (by decide +kernel)
  have went : rc = .success := fits.mpr fun bound limited => by cases limited
  obtain ⟨shown, content, same⟩ := back went
  exact ⟨next, shown, went ▸ performed, content, (same [0, 255]).mpr rfl⟩

end Hex

end Zlog
