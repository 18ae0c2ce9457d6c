import RamsesProxy.Zlog.Message

set_option autoImplicit false

namespace Zlog

open CText

-- A pattern that is refused, or one whose scan goes past the end of an array.
inductive PatternError where
  | wrong
  | overrun
deriving DecidableEq

def defaultTimeFmt : Bytes := ascii "%F %T"

def isFmtByte (byte : UInt8) : Bool := byte == 46 || isDigit byte || byte == 45

-- %ld into a long that is 0, and its cast to size_t.
def scanWidth (text : Bytes) : Nat := (((scanLd text).map Prod.fst).getD 0 % 2 ^ 64).toNat

def parsePrintFmt (printFmt : Bytes) : Adjust :=
  let leftAdjust := printFmt.head? == some 45
  let widths := if leftAdjust = true then printFmt.tail else printFmt
  { leftAdjust := leftAdjust
    minWidth := scanWidth widths
    maxWidth := if widths.dropWhile (· != 46) = [] then 0 else scanWidth (widths.dropWhile (· != 46)).tail }

def bracketed (text : Bytes) : Except PatternError (Bytes × Bytes) :=
  match text.dropWhile (· != 41) with
  | [] => .error .wrong
  | _ :: rest => .ok (text.takeWhile (· != 41), rest)

def parseTime (timeFmt rest : Bytes) (timeCacheCount : Nat) : Except PatternError (Conversion × Bytes × Nat) :=
  .ok (.time timeFmt timeCacheCount, rest, timeCacheCount + 1)

def parseLetter (letter : UInt8) (rest : Bytes) (timeCacheCount : Nat) : Except PatternError (Conversion × Bytes × Nat) :=
  match letter with
  | 99 => .ok (.category, rest, timeCacheCount)
  | 68 => parseTime defaultTimeFmt rest timeCacheCount
  | 70 => .ok (.srcfile, rest, timeCacheCount)
  | 102 => .ok (.srcfileNeat, rest, timeCacheCount)
  | 72 => .ok (.hostname, rest, timeCacheCount)
  | 76 => .ok (.srcline, rest, timeCacheCount)
  | 109 => .ok (.usrmsg, rest, timeCacheCount)
  | 110 => .ok (.newline, rest, timeCacheCount)
  | 112 => .ok (.pid, rest, timeCacheCount)
  | 85 => .ok (.srcfunc, rest, timeCacheCount)
  | 118 => .ok (.levelLowercase, rest, timeCacheCount)
  | 86 => .ok (.levelUppercase, rest, timeCacheCount)
  | 116 => .ok (.tidHex, rest, timeCacheCount)
  | 84 => .ok (.tidLong, rest, timeCacheCount)
  | 37 => .ok (.percent, rest, timeCacheCount)
  | _ => .error .wrong

def parseConversion (text : Bytes) (timeCacheCount : Nat) : Except PatternError (Conversion × Bytes × Nat) :=
  match text with
  | 100 :: 40 :: 41 :: rest => parseTime defaultTimeFmt rest timeCacheCount
  | 100 :: 40 :: after => do
      let (timeFmt, rest) ← bracketed after
      parseTime timeFmt rest timeCacheCount
  | 100 :: rest => parseTime defaultTimeFmt rest timeCacheCount
  | 77 :: 40 :: after => do
      if 1024 < (after.takeWhile (· != 41)).length then .error .overrun
      let (mdcKey, rest) ← bracketed after
      .ok (.mdc mdcKey, rest, timeCacheCount)
  | 109 :: 115 :: rest => .ok (.ms, rest, timeCacheCount)
  | 117 :: 115 :: rest => .ok (.us, rest, timeCacheCount)
  | letter :: rest => parseLetter letter rest timeCacheCount
  | [] => .error .wrong

def specNew (pattern : Bytes) (timeCacheCount : Nat) : Except PatternError (Spec × Bytes × Nat) :=
  if pattern.head? = some 37 then do
    let printFmt := pattern.tail.takeWhile isFmtByte
    let (conversion, rest, count) ← parseConversion (pattern.tail.dropWhile isFmtByte) timeCacheCount
    .ok (⟨conversion, if printFmt = [] then none else some (parsePrintFmt printFmt)⟩, rest, count)
  else .ok (⟨.str (pattern.takeWhile (· != 37)), none⟩, pattern.dropWhile (· != 37), timeCacheCount)

-- The loop of zlog_format_new, with a bound on its rounds.
def patternSpecs : Nat → Bytes → Nat → Except PatternError (List Spec × Nat)
  | _, [], timeCacheCount => .ok ([], timeCacheCount)
  | 0, _ :: _, _ => .error .wrong
  | rounds + 1, byte :: pattern, timeCacheCount => do
      let (spec, rest, count) ← specNew (byte :: pattern) timeCacheCount
      let (specs, count) ← patternSpecs rounds rest count
      .ok (spec :: specs, count)

def cString (array : Bytes) (place : Nat) : Option Bytes :=
  if (array.drop place).dropWhile (· != 0) = [] then none else some (cstr (array.drop place))

-- E(%[^)])%n, as the key and the count that %n stores. None when the scan says 0, and no
-- count when the text ends before the bracket.
def scanEnvKey : Bytes → Option (Bytes × Option Nat)
  | [] => some ([], none)
  | [69] => some ([], none)
  | 69 :: 40 :: 41 :: _ => none
  | 69 :: 40 :: after =>
      let envKey := after.takeWhile (· != 41)
      some (envKey, if envKey.length < after.length then some (envKey.length + 3) else none)
  | _ => none

-- The loop of zc_str_replace_env. What snprintf makes of a print format and the value of a
-- key is given. When there is no count the one of the print format is used once more.
def replaceEnvFrom (printEnv : Bytes → Bytes → Option Bytes) : Nat → Bytes → Int → Nat → Except PatternError Bytes
  | 0, _, _, _ => .error .overrun
  | rounds + 1, str, strLen, start =>
      match cString str start with
      | none => .error .overrun
      | some text =>
          match text.dropWhile (· != 37) with
          | [] => .ok str
          | _ :: after =>
              let percent := start + (text.takeWhile (· != 37)).length
              let printFmt := after.takeWhile isFmtByte
              let scanned := percent + 1 + printFmt.length
              match scanEnvKey (after.dropWhile isFmtByte) with
              | none => replaceEnvFrom printEnv rounds str strLen scanned
              | some (envKey, nread) =>
                  let next := scanned + nread.getD printFmt.length
                  match str[next - 1]?, printEnv printFmt envKey, cString str next with
                  | none, _, _ => .error .overrun
                  | some bracket, value, rest =>
                      if bracket ≠ 41 then .error .wrong
                      else
                        match value with
                        | none => .error .wrong
                        | some envValue =>
                            let strLen := strLen - (next - percent : Nat) + envValue.length
                            if 4096 < envValue.length ∨ strLen < 0 ∨ str.length ≤ strLen then .error .wrong
                            else
                              match rest with
                              | none => .error .overrun
                              | some rest =>
                                  let moved := envValue ++ rest ++ [0]
                                  if str.length < percent + moved.length then .error .overrun
                                  else
                                    let str := str.take percent ++ moved ++ str.drop (percent + moved.length)
                                    replaceEnvFrom printEnv rounds str strLen next

def strReplaceEnv (printEnv : Bytes → Bytes → Option Bytes) (str : Bytes) : Except PatternError Bytes :=
  match cString str 0 with
  | none => .error .overrun
  | some text => replaceEnvFrom printEnv (str.length + 1) str text.length 0

def parsePattern (pattern : Bytes) (timeCacheCount : Nat) : Except PatternError (List Spec × Nat) :=
  patternSpecs pattern.length pattern timeCacheCount

-- zlog_format_new from the pattern on, which has an array of 4097 bytes.
def formatPattern (printEnv : Bytes → Bytes → Option Bytes) (pattern : Bytes) (timeCacheCount : Nat) :
    Except PatternError (List Spec × Nat) :=
  if 4096 < pattern.length then .error .wrong
  else do
    let str ← strReplaceEnv printEnv (pattern ++ List.replicate (4097 - pattern.length) 0)
    match cString str 0 with
    | none => .error .overrun
    | some text => parsePattern text timeCacheCount

-- The patterns of a conf as zc_str_replace_env leaves them, one after the other with one
-- count of the caches.
def parsePatterns : List Bytes → Nat → Except PatternError (List (List Spec) × Nat)
  | [], timeCacheCount => .ok ([], timeCacheCount)
  | pattern :: rest, timeCacheCount => do
      let (specs, count) ← parsePattern pattern timeCacheCount
      let (others, count) ← parsePatterns rest count
      .ok (specs :: others, count)

end Zlog
