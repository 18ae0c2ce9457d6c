import Mathlib.Data.List.Perm.Basic
import RamsesProxy.Lib.ConfigFile

set_option autoImplicit false

namespace Rart

open CText ConfigFile

structure ParamsManager where
  f1Adr : Bytes
  f1Port : UInt64
  udpPort : UInt64
  tcpPort : UInt64
  sessionTimeout : Int64
  logLevel : Int32
  configPath : Bytes
deriving DecidableEq

namespace ParamsManager

def configFile : Bytes := ascii "raRt.cfg"

-- The constructor leaves m_nTcpPort as it finds it.
def create (configPath : Bytes) (rawTcpPort : UInt64) : ParamsManager where
  f1Adr := ascii "127.0.0.1"
  f1Port := 3500
  udpPort := 3500
  tcpPort := rawTcpPort
  sessionTimeout := 30 * 60 * 1000
  logLevel := 8
  configPath := configPath

def savedOptions (manager : ParamsManager) : List (Bytes × Bytes) :=
  [(ascii "f1serveradr", manager.f1Adr),
    (ascii "f1serverport", decimal manager.f1Port.toNat),
    (ascii "udpport", decimal manager.udpPort.toNat),
    (ascii "tcpport", decimal manager.tcpPort.toNat),
    (ascii "tcpsessiontimeout", signedDecimal manager.sessionTimeout.toInt),
    (ascii "loglevel", signedDecimal manager.logLevel.toInt)]

def savedLines (manager : ParamsManager) : List Bytes := manager.savedOptions.map optionLine

-- What save returns and what it writes to raRt.cfg in the working directory.
def save (manager : ParamsManager) : Int × Bytes := (0, joinLines manager.savedLines)

def options : List Bytes :=
  [ascii "f1serveradr", ascii "f1serverport", ascii "udpport", ascii "tcpport", ascii "tcpsessiontimeout", ascii "loglevel"]

-- The body of load's loop. The ports are size_t, so a negative int wraps.
def loadOption (manager : ParamsManager) (option : Bytes × Bytes) : ParamsManager :=
  if option.1 = ascii "f1serveradr" then { manager with f1Adr := option.2 }
  else if option.1 = ascii "f1serverport" then { manager with f1Port := .ofInt (atoi (cstr option.2)) }
  else if option.1 = ascii "tcpsessiontimeout" then { manager with sessionTimeout := .ofInt (atol (cstr option.2)) }
  else if option.1 = ascii "loglevel" then { manager with logLevel := .ofInt (atoi (cstr option.2)) }
  else if option.1 = ascii "udpport" then { manager with udpPort := .ofInt (atoi (cstr option.2)) }
  else if option.1 = ascii "tcpport" then { manager with tcpPort := .ofInt (atoi (cstr option.2)) }
  else manager

-- The iterator throws after the options before the fault have been set.
def loadFrom (manager : ParamsManager) (contents : Contents) : ParamsManager × Int :=
  (contents.options.foldl loadOption manager, if contents.threw then -1 else 0)

def load (read : List Bytes → Bytes → Contents) (file : Bytes → Option Bytes) (manager : ParamsManager) : ParamsManager × Int :=
  let located := { manager with configPath := manager.configPath ++ ascii "/" ++ configFile }
  match file located.configPath with
  | none => (located, -1)
  | some text => located.loadFrom (read options text)

theorem options_plain : ∀ name ∈ options, NamePlain name := by
  have checked : (options.all fun name => !name.isEmpty && name.all isNameByte) = true := rfl
  simp only [List.all_eq_true, Bool.and_eq_true, Bool.not_eq_eq_eq_not, Bool.not_true, List.isEmpty_eq_false_iff] at checked
  intro name member
  obtain ⟨nonempty, bytes⟩ := checked name member
  exact name_plain name nonempty bytes

theorem digit_clean (byte : UInt8) (digit : isDigit byte = true) : isBlank byte = false ∧ byte ≠ 35 := by
  have notBlank : byte ≠ 32 := digit_ne byte 32 digit rfl
  have notTab : byte ≠ 9 := digit_ne byte 9 digit rfl
  have notReturn : byte ≠ 13 := digit_ne byte 13 digit rfl
  have notNewline : byte ≠ 10 := digit_ne byte 10 digit rfl
  exact ⟨by simp [isBlank, notBlank, notTab, notReturn, notNewline], digit_ne byte 35 digit rfl⟩

theorem decimal_plain (number : Nat) : Plain (decimal number) :=
  plain_of_bytes _ fun byte member => digit_clean byte (decimal_digits number byte member)

theorem signed_decimal_plain (value : Int) : Plain (signedDecimal value) := by
  apply plain_of_bytes
  intro byte member
  rcases signed_decimal_bytes value byte member with rfl | digit
  · decide
  · exact digit_clean byte digit

theorem saved_option_known (manager : ParamsManager) (option : Bytes × Bytes) (member : option ∈ manager.savedOptions) :
    option.1 ∈ options := by
  have names : manager.savedOptions.map Prod.fst = options := rfl
  rw [← names]
  exact List.mem_map_of_mem member

theorem saved_option_plain (manager : ParamsManager) (address : Plain manager.f1Adr) (option : Bytes × Bytes)
    (member : option ∈ manager.savedOptions) : Plain option.2 := by
  simp only [savedOptions, List.mem_cons, List.not_mem_nil, or_false] at member
  rcases member with rfl | rfl | rfl | rfl | rfl | rfl
  · exact address
  · exact decimal_plain _
  · exact decimal_plain _
  · exact decimal_plain _
  · exact signed_decimal_plain _
  · exact signed_decimal_plain _

theorem cstr_decimal (number : Nat) : cstr (decimal number) = decimal number :=
  cstr_of_no_nul _ fun byte member => digit_ne byte 0 (decimal_digits number byte member) rfl

theorem cstr_signed_decimal (value : Int) : cstr (signedDecimal value) = signedDecimal value := by
  apply cstr_of_no_nul
  intro byte member
  rcases signed_decimal_bytes value byte member with rfl | digit
  · decide
  · exact digit_ne byte 0 digit rfl

theorem port_restored (port : UInt64) (small : port.toNat ≤ 65535) : UInt64.ofInt (atoi (cstr (decimal port.toNat))) = port := by
  have kept : (port.toNat : Int) % 2 ^ 64 = port.toNat := Int.emod_eq_of_lt (by omega) (by omega)
  rw [cstr_decimal, atoi_decimal _ (by omega), UInt64.ofInt, kept, Int.toNat_natCast, UInt64.ofNat_toNat]

theorem timeout_restored (timeout : Int64) : Int64.ofInt (atol (cstr (signedDecimal timeout.toInt))) = timeout := by
  rw [cstr_signed_decimal, atol_signed_decimal _ timeout.le_toInt timeout.toInt_lt, Int64.ofInt_toInt]

theorem level_restored (level : Int32) : Int32.ofInt (atoi (cstr (signedDecimal level.toInt))) = level := by
  rw [cstr_signed_decimal, atoi_signed_decimal _ level.le_toInt level.toInt_lt, Int32.ofInt_toInt]

structure PortsFit (manager : ParamsManager) : Prop where
  f1 : manager.f1Port.toNat ≤ 65535
  udp : manager.udpPort.toNat ≤ 65535
  tcp : manager.tcpPort.toNat ≤ 65535

section Fields

variable (manager : ParamsManager) (value : Bytes)

@[simp] theorem load_f1_adr : manager.loadOption (ascii "f1serveradr", value) = { manager with f1Adr := value } := rfl
@[simp] theorem load_f1_port :
    manager.loadOption (ascii "f1serverport", value) = { manager with f1Port := .ofInt (atoi (cstr value)) } := rfl
@[simp] theorem load_udp_port :
    manager.loadOption (ascii "udpport", value) = { manager with udpPort := .ofInt (atoi (cstr value)) } := rfl
@[simp] theorem load_tcp_port :
    manager.loadOption (ascii "tcpport", value) = { manager with tcpPort := .ofInt (atoi (cstr value)) } := rfl
@[simp] theorem load_session_timeout :
    manager.loadOption (ascii "tcpsessiontimeout", value) = { manager with sessionTimeout := .ofInt (atol (cstr value)) } := rfl
@[simp] theorem load_log_level :
    manager.loadOption (ascii "loglevel", value) = { manager with logLevel := .ofInt (atoi (cstr value)) } := rfl

end Fields

theorem load_saved_options (saved manager : ParamsManager) (fit : PortsFit saved) :
    saved.savedOptions.foldl loadOption manager = { saved with configPath := manager.configPath } := by
  simp only [savedOptions, List.foldl_cons, List.foldl_nil, load_f1_adr, load_f1_port, load_udp_port, load_tcp_port,
    load_session_timeout, load_log_level]
  rw [port_restored _ fit.f1, port_restored _ fit.udp, port_restored _ fit.tcp, timeout_restored, level_restored]

theorem saved_options_commute (saved manager : ParamsManager) (left right : Bytes × Bytes) (leftSaved : left ∈ saved.savedOptions)
    (rightSaved : right ∈ saved.savedOptions) :
    (manager.loadOption left).loadOption right = (manager.loadOption right).loadOption left := by
  simp only [savedOptions, List.mem_cons, List.not_mem_nil, or_false] at leftSaved rightSaved
  rcases leftSaved with rfl | rfl | rfl | rfl | rfl | rfl <;>
    rcases rightSaved with rfl | rfl | rfl | rfl | rfl | rfl <;>
    simp only [load_f1_adr, load_f1_port, load_udp_port, load_tcp_port, load_session_timeout, load_log_level]

section Read

variable {read : List Bytes → Bytes → Contents} (rules : Rules read)

include rules

theorem read_saved (saved : ParamsManager) (lines : List Bytes) (address : Plain saved.f1Adr) (permuted : lines.Perm saved.savedLines) :
    ∃ given, read options (joinLines lines) = ⟨given, false⟩ ∧ given.Perm saved.savedOptions := by
  obtain ⟨given, rfl, same⟩ : ∃ given : List (Bytes × Bytes), lines = given.map optionLine ∧ given.Perm saved.savedOptions := by
    have mapped := List.eq_map_comp_perm optionLine
    rw [savedLines, ← congrFun (congrFun mapped lines) saved.savedOptions] at permuted
    exact permuted
  have known (option : Bytes × Bytes) (member : option ∈ given) : option.1 ∈ options :=
    saved_option_known saved option (same.mem_iff.mp member)
  have readAll := read_option_lines rules options given [] (fun option member => options_plain _ (known option member))
    (fun option member => saved_option_plain saved address option (same.mem_iff.mp member)) known
  rw [List.append_nil, rules.atEnd] at readAll
  exact ⟨given, by rw [readAll, Contents.after, List.append_nil], same⟩

theorem load_restores_saved (saved prior : ParamsManager) (lines : List Bytes) (file : Bytes → Option Bytes)
    (address : Plain saved.f1Adr) (fit : PortsFit saved) (permuted : lines.Perm saved.savedLines)
    (stored : file (prior.configPath ++ ascii "/" ++ configFile) = some (joinLines lines)) :
    saved.save = (0, joinLines saved.savedLines) ∧
      prior.load read file = ({ saved with configPath := prior.configPath ++ ascii "/" ++ configFile }, 0) := by
  obtain ⟨given, contents, same⟩ := read_saved rules saved lines address permuted
  refine ⟨rfl, ?_⟩
  have reordered := same.foldl_eq' (fun left leftGiven right rightGiven state => saved_options_commute saved state left right
    (same.mem_iff.mp leftGiven) (same.mem_iff.mp rightGiven)) { prior with configPath := prior.configPath ++ ascii "/" ++ configFile }
  simp only [load, stored, contents, loadFrom, reordered, load_saved_options saved _ fit]
  rfl

theorem load_stops_unknown (prior : ParamsManager) (given : List (Bytes × Bytes)) (name value rest : Bytes)
    (file : Bytes → Option Bytes) (known : ∀ option ∈ given, option.1 ∈ options) (plain : ∀ option ∈ given, Plain option.2)
    (named : NamePlain name) (valuePlain : Plain value) (refused : name ∉ options)
    (stored : file (prior.configPath ++ ascii "/" ++ configFile) =
      some (joinLines (given.map optionLine) ++ (optionLine (name, value) ++ 10 :: rest))) :
    prior.load read file =
      (given.foldl loadOption { prior with configPath := prior.configPath ++ ascii "/" ++ configFile }, -1) := by
  have stopped := read_unknown rules options name value rest named valuePlain refused (by decide)
  have readAll := read_option_lines rules options given (optionLine (name, value) ++ 10 :: rest)
    (fun option member => options_plain _ (known option member)) plain known
  rw [stopped, Contents.after, List.append_nil] at readAll
  simp only [load, stored, readAll, loadFrom]
  rfl

end Read

def sampleParams : ParamsManager where
  f1Adr := ascii "f1 = [10.0.0.7]"
  f1Port := 65535
  udpPort := 0
  tcpPort := 3507
  sessionTimeout := -9223372036854775808
  logLevel := -1
  configPath := ascii "/etc"

theorem load_restores_saved_reversed :
    (create (ascii "conf") 0).load readPlain (fun _ => some (joinLines sampleParams.savedLines.reverse)) =
      ({ sampleParams with configPath := ascii "conf/raRt.cfg" }, 0) := by
  have address : Plain sampleParams.f1Adr :=
    ⟨by decide, by decide, fun byte found => by cases found; decide, fun byte found => by cases found; decide⟩
  exact (load_restores_saved read_plain_rules sampleParams (create (ascii "conf") 0) sampleParams.savedLines.reverse _ address
    ⟨by decide, by decide, by decide⟩ (List.reverse_perm _) rfl).2

end ParamsManager

end Rart
