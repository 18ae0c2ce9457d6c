import Mathlib.Data.List.DropRight
import RamsesProxy.Lib.CText

set_option autoImplicit false

-- Configuration files as boost's program_options reads them: one name=value to a line.
namespace ConfigFile

def isBlank (byte : UInt8) : Bool := byte == 32 || byte == 9 || byte == 13 || byte == 10

def trim (text : Bytes) : Bytes := (text.dropWhile isBlank).rdropWhile isBlank

def body (line : Bytes) : Bytes := trim (line.takeWhile (· != 35))

structure Contents where
  options : List (Bytes × Bytes)
  threw : Bool
deriving DecidableEq

def Contents.after (options : List (Bytes × Bytes)) (contents : Contents) : Contents :=
  { contents with options := options ++ contents.options }

-- What a config_file_iterator does with the first line. Lines that open a section are
-- left out, and so are allowed names that end in a wildcard.
structure Rules (read : List Bytes → Bytes → Contents) : Prop where
  atEnd : ∀ names, read names [] = ⟨[], false⟩
  known : ∀ names line rest name value, 10 ∉ line → body line = name ++ 61 :: value → 61 ∉ name → name.head? ≠ some 91 →
    trim name ∈ names → read names (line ++ 10 :: rest) = (read names rest).after [(trim name, trim value)]
  unknown : ∀ names line rest name value, 10 ∉ line → body line = name ++ 61 :: value → 61 ∉ name → name.head? ≠ some 91 →
    trim name ∉ names → (∀ allowed ∈ names, 42 ∉ allowed) → read names (line ++ 10 :: rest) = ⟨[], true⟩

structure Plain (text : Bytes) : Prop where
  oneLine : 10 ∉ text
  noComment : 35 ∉ text
  first : ∀ byte, text.head? = some byte → isBlank byte = false
  last : ∀ byte, text.getLast? = some byte → isBlank byte = false

theorem trim_plain (text : Bytes) (first : ∀ byte, text.head? = some byte → isBlank byte = false)
    (last : ∀ byte, text.getLast? = some byte → isBlank byte = false) : trim text = text := by
  have started : text.dropWhile isBlank = text := by
    cases text with
    | nil => rfl
    | cons byte rest => simp [first byte rfl]
  rw [trim, started, List.rdropWhile_eq_self_iff]
  intro nonempty
  simp [last _ (List.getLast?_eq_some_getLast nonempty)]

theorem plain_trim (text : Bytes) (plain : Plain text) : trim text = text := trim_plain text plain.first plain.last

theorem plain_of_bytes (text : Bytes) (clean : ∀ byte ∈ text, isBlank byte = false ∧ byte ≠ 35) : Plain text where
  oneLine := fun member => by
    have apart := (clean 10 member).1
    cases apart
  noComment := fun member => (clean 35 member).2 rfl
  first := fun byte found => (clean byte (List.mem_of_head? found)).1
  last := fun byte found => (clean byte (List.mem_of_getLast? found)).1

def optionLine (option : Bytes × Bytes) : Bytes := option.1 ++ 61 :: option.2

def joinLines (lines : List Bytes) : Bytes := lines.flatMap (· ++ [10])

structure NamePlain (name : Bytes) : Prop where
  plain : Plain name
  nonempty : name ≠ []
  noEquals : 61 ∉ name
  noSection : name.head? ≠ some 91

def isNameByte (byte : UInt8) : Bool := !isBlank byte && byte != 35 && byte != 61 && byte != 91

theorem name_plain (name : Bytes) (nonempty : name ≠ []) (bytes : ∀ byte ∈ name, isNameByte byte = true) : NamePlain name := by
  simp only [isNameByte, Bool.and_eq_true, Bool.not_eq_eq_eq_not, Bool.not_true, bne_iff_ne] at bytes
  refine ⟨plain_of_bytes name fun byte member => (bytes byte member).1.1, nonempty, ?_, ?_⟩
  · intro member
    exact (bytes 61 member).1.2 rfl
  · intro found
    exact (bytes 91 (List.mem_of_head? found)).2 rfl

theorem option_line_body (name value : Bytes) (named : NamePlain name) (plain : Plain value) :
    10 ∉ optionLine (name, value) ∧ body (optionLine (name, value)) = name ++ 61 :: value := by
  have oneLine : 10 ∉ name ++ 61 :: value := by
    rw [List.mem_append, List.mem_cons]
    rintro (inName | equals | inValue)
    · exact named.plain.oneLine inName
    · cases equals
    · exact plain.oneLine inValue
  have uncommented : (name ++ 61 :: value).takeWhile (· != 35) = name ++ 61 :: value := by
    rw [List.takeWhile_eq_self_iff]
    intro byte member
    rw [bne_iff_ne]
    rintro rfl
    rw [List.mem_append, List.mem_cons] at member
    rcases member with inName | equals | inValue
    · exact named.plain.noComment inName
    · cases equals
    · exact plain.noComment inValue
  refine ⟨oneLine, ?_⟩
  rw [body, optionLine, uncommented]
  apply trim_plain
  · intro byte found
    rw [List.head?_append_of_ne_nil name named.nonempty] at found
    exact named.plain.first byte found
  · intro byte found
    rw [List.getLast?_append_cons] at found
    by_cases none : value = []
    · subst none
      cases found
      rfl
    · rw [List.getLast?_cons_of_ne_nil none] at found
      exact plain.last byte found

section Read

variable {read : List Bytes → Bytes → Contents} (rules : Rules read) (names : List Bytes)

include rules

theorem read_known (name value rest : Bytes) (named : NamePlain name) (plain : Plain value) (allowed : name ∈ names) :
    read names (optionLine (name, value) ++ 10 :: rest) = (read names rest).after [(name, value)] := by
  obtain ⟨oneLine, whole⟩ := option_line_body name value named plain
  have sameName := plain_trim name named.plain
  have given := rules.known names _ rest name value oneLine whole named.noEquals named.noSection (by rw [sameName]; exact allowed)
  rw [given, sameName, plain_trim value plain]

theorem read_unknown (name value rest : Bytes) (named : NamePlain name) (plain : Plain value) (refused : name ∉ names)
    (noWildcard : ∀ allowed ∈ names, 42 ∉ allowed) : read names (optionLine (name, value) ++ 10 :: rest) = ⟨[], true⟩ := by
  obtain ⟨oneLine, whole⟩ := option_line_body name value named plain
  have sameName := plain_trim name named.plain
  exact rules.unknown names _ rest name value oneLine whole named.noEquals named.noSection (by rw [sameName]; exact refused)
    noWildcard

theorem read_option_lines (options : List (Bytes × Bytes)) (rest : Bytes) (named : ∀ option ∈ options, NamePlain option.1)
    (plain : ∀ option ∈ options, Plain option.2) (allowed : ∀ option ∈ options, option.1 ∈ names) :
    read names (joinLines (options.map optionLine) ++ rest) = (read names rest).after options := by
  induction options with
  | nil => rfl
  | cons option others ih =>
      have tail := ih (fun other member => named other (List.mem_cons_of_mem _ member))
        (fun other member => plain other (List.mem_cons_of_mem _ member))
        (fun other member => allowed other (List.mem_cons_of_mem _ member))
      have cut : joinLines ((option :: others).map optionLine) ++ rest =
          optionLine (option.1, option.2) ++ 10 :: (joinLines (others.map optionLine) ++ rest) := by
        simp [joinLines]
      rw [cut, read_known rules names option.1 option.2 _ (named option List.mem_cons_self) (plain option List.mem_cons_self)
        (allowed option List.mem_cons_self), tail]
      rfl

end Read

def lines : Bytes → List Bytes
  | [] => []
  | byte :: rest =>
      if byte = 10 then [] :: lines rest
      else match lines rest with
        | [] => [[byte]]
        | line :: more => (byte :: line) :: more

-- A reader that takes every line for an option and knows no sections.
def readLines (names : List Bytes) : List Bytes → Contents
  | [] => ⟨[], false⟩
  | line :: rest =>
      let name := trim ((body line).takeWhile (· != 61))
      if body line = [] then readLines names rest
      else if 61 ∈ body line ∧ name ∈ names then
        (readLines names rest).after [(name, trim ((body line).dropWhile (· != 61)).tail)]
      else ⟨[], true⟩

def readPlain (names : List Bytes) (text : Bytes) : Contents := readLines names (lines text)

theorem lines_cut (line rest : Bytes) (oneLine : 10 ∉ line) : lines (line ++ 10 :: rest) = line :: lines rest := by
  induction line with
  | nil => simp [lines]
  | cons byte others ih =>
      have apart : byte ≠ 10 := fun same => oneLine (by simp [same])
      have tail := ih fun member => oneLine (List.mem_cons_of_mem byte member)
      simp [lines, if_neg apart, tail]

theorem equals_cut (name value : Bytes) (noEquals : 61 ∉ name) :
    (name ++ 61 :: value).takeWhile (· != 61) = name ∧ (name ++ 61 :: value).dropWhile (· != 61) = 61 :: value := by
  have apart : ∀ byte ∈ name, (byte != 61) = true := by
    intro byte member
    rw [bne_iff_ne]
    rintro rfl
    exact noEquals member
  rw [List.takeWhile_append_of_pos apart, List.dropWhile_append_of_pos apart]
  simp

theorem read_plain_rules : Rules readPlain where
  atEnd := fun _ => rfl
  known := by
    intro names line rest name value oneLine whole noEquals _ allowed
    obtain ⟨taken, dropped⟩ := equals_cut name value noEquals
    rw [readPlain, lines_cut line rest oneLine, readLines]
    simp only [whole, taken, dropped, List.tail_cons]
    rw [if_neg (by simp), if_pos ⟨by simp, allowed⟩]
    rfl
  unknown := by
    intro names line rest name value oneLine whole noEquals _ refused _
    obtain ⟨taken, _⟩ := equals_cut name value noEquals
    rw [readPlain, lines_cut line rest oneLine, readLines]
    simp only [whole, taken]
    rw [if_neg (by simp), if_neg (fun both => refused both.2)]

end ConfigFile
