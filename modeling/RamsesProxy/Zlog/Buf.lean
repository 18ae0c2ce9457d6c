import RamsesProxy.Lib.Bounded
import RamsesProxy.Lib.CText
import RamsesProxy.Lib.Machine

set_option autoImplicit false

namespace Zlog

open CText

-- What the functions of the buffer return: 0, 1 and -1. With an overflow they do not
-- return: the new size is no size_t any more, and they write past the little that realloc
-- gives for it, or free the memory twice when it gives none.
inductive Rc where
  | success
  | truncated
  | fail
  | overflow
deriving DecidableEq

-- The text from start to tail; none when a realloc has failed and start is null.
structure Buf where
  sizeMin : Nat
  sizeMax : Nat
  sizeReal : Nat
  truncateStr : Bytes
  content : Option Bytes

namespace Buf

def new (sizeMin sizeMax : Nat) (truncateStr : Bytes) : Option Buf :=
  if sizeMin = 0 then none
  else if sizeMax ≠ 0 ∧ sizeMax < sizeMin then none
  else if 1024 < truncateStr.length then none
  else some ⟨sizeMin, sizeMax, sizeMin, truncateStr, some []⟩

def restart (buf : Buf) : Buf := { buf with content := buf.content.map fun _ => [] }

def room (buf : Buf) : Nat :=
  match buf.content with
  | none => 0
  | some content => buf.sizeReal - 1 - content.length

def extend (text : Bytes) (buf : Buf) : Buf := { buf with content := buf.content.map (· ++ text) }

def truncate (buf : Buf) : Buf :=
  if buf.truncateStr = [] then buf else { buf with content := buf.content.map (Bounded.marked buf.truncateStr) }

-- A realloc of a null start is a malloc, of an empty text.
def resize (granted : Bool) (increment : Nat) (buf : Buf) : Buf × Rc :=
  if buf.sizeMax ≠ 0 ∧ buf.sizeMax ≤ buf.sizeReal then (buf, .truncated)
  else
    let (newSize, rc) :=
      if buf.sizeMax = 0 then (buf.sizeReal + 3 * increment / 2, Rc.success)
      else if buf.sizeReal + increment ≤ buf.sizeMax then (buf.sizeReal + increment, .success)
      else (buf.sizeMax, .truncated)
    if granted = false then ({ buf with content := none }, .fail)
    else ({ buf with content := some (buf.content.getD []), sizeReal := newSize }, rc)

-- What all the writers share: the whole text when there is room for it, or the part that
-- the writer puts in the room there is. A part longer than the text is read past its end.
def fill (granted : Bool) (whole : Bytes) (part : Nat → Bytes) (buf : Buf) : Option (Buf × Rc) :=
  if buf.room < whole.length then
    match buf.resize granted (whole.length - buf.room) with
    | (grown, .success) => some (grown.extend whole, .success)
    | (grown, .truncated) =>
        if whole.length < grown.room then none else some ((grown.extend (part grown.room)).truncate, .truncated)
    | (grown, rc) => some (grown, rc)
  else some (buf.extend whole, .success)

-- The new size that resize works out when it does not hold the limit against it.
def wanted (length : Nat) (buf : Buf) : Nat :=
  buf.sizeReal + if buf.sizeMax = 0 then 3 * (length - buf.room) / 2 else length - buf.room

-- That size leaves size_t. A text in memory is never so long, but a width from the conf
-- can be.
def Overflows (length : Nat) (buf : Buf) : Prop :=
  buf.room < length ∧ ¬ (buf.sizeMax ≠ 0 ∧ buf.sizeMax ≤ buf.sizeReal) ∧ 2 ^ 64 ≤ buf.wanted length

instance (length : Nat) (buf : Buf) : Decidable (Overflows length buf) := inferInstanceAs (Decidable (_ ∧ _ ∧ _))

-- A size that wraps to no bytes at all makes realloc free start, which is then freed again.
def fillLive (granted : Bool) (whole : Bytes) (part : Nat → Bytes) (buf : Buf) : Option (Buf × Rc) :=
  if buf.content = none then some (buf, .fail)
  else if buf.Overflows whole.length then
    if granted = true ∨ buf.wanted whole.length % 2 ^ 64 = 0 then some (buf, .overflow)
    else some ({ buf with content := none }, .fail)
  else buf.fill granted whole part

def append (granted : Bool) (str : Bytes) (buf : Buf) : Option (Buf × Rc) := buf.fill granted str str.take

-- None when vsnprintf refuses the format, or cannot count its text in an int.
def vprintf (granted : Bool) (formatted : Option Bytes) (buf : Buf) : Option (Buf × Rc) :=
  match formatted with
  | none => some (buf, .fail)
  | some text => buf.fillLive granted text text.take

-- The do loop that writes the digits before the end of tmp, which has that many slots.
def digitLoop (base : Nat) (digit : Nat → UInt8) : Nat → Nat → Bytes → Option Bytes
  | 0, _, _ => none
  | slots + 1, number, written =>
      let written := digit (number % base) :: written
      if number / base = 0 then some written else digitLoop base digit slots (number / base) written

def decDigit (digit : Nat) : UInt8 := UInt8.ofNat (digit + 48)

def zeroed (granted : Bool) (digits : Bytes) (width : Nat) (buf : Buf) : Option (Buf × Rc) :=
  let zeroLen := width - digits.length
  buf.fillLive granted (List.replicate zeroLen 48 ++ digits) fun lenLeft =>
    if lenLeft ≤ zeroLen then List.replicate lenLeft 48
    else List.replicate zeroLen 48 ++ digits.take (lenLeft - zeroLen)

def printfDec32 (granted : Bool) (ui32 : UInt32) (width : Nat) (buf : Buf) : Option (Buf × Rc) :=
  (digitLoop 10 decDigit 11 ui32.toNat []).bind fun digits => buf.zeroed granted digits width

def printfDec64 (granted : Bool) (ui64 : UInt64) (width : Nat) (buf : Buf) : Option (Buf × Rc) :=
  let digits :=
    if ui64.toNat ≤ 4294967295 then digitLoop 10 decDigit 20 ui64.toUInt32.toNat []
    else digitLoop 10 decDigit 20 ui64.toNat []
  digits.bind fun digits => buf.zeroed granted digits width

def printfHex (granted : Bool) (ui32 : UInt32) (width : Nat) (buf : Buf) : Option (Buf × Rc) :=
  (digitLoop 16 hexDigit 11 ui32.toNat []).bind fun digits => buf.zeroed granted digits width

def adjustAppend (granted : Bool) (str : Bytes) (leftAdjust : Bool) (inWidth outWidth : Nat) (buf : Buf) : Option (Buf × Rc) :=
  let sourceLen := if outWidth = 0 ∨ str.length < outWidth then str.length else outWidth
  let spaceLen := if inWidth = 0 ∨ inWidth ≤ sourceLen then 0 else inWidth - sourceLen
  if leftAdjust = true then
    buf.fillLive granted (str.take sourceLen ++ List.replicate spaceLen 32) fun appendLen =>
      if sourceLen < appendLen then str.take sourceLen ++ List.replicate (appendLen - sourceLen) 32
      else str.take appendLen
  else
    buf.fillLive granted (List.replicate spaceLen 32 ++ str.take sourceLen) fun appendLen =>
      if spaceLen < appendLen then List.replicate spaceLen 32 ++ str.take (appendLen - spaceLen)
      else List.replicate appendLen 32

inductive Op where
  | restart
  | append (str : Bytes)
  | adjustAppend (str : Bytes) (leftAdjust : Bool) (inWidth outWidth : Nat)
  | printfDec32 (ui32 : UInt32) (width : Nat)
  | printfDec64 (ui64 : UInt64) (width : Nat)
  | printfHex (ui32 : UInt32) (width : Nat)
  | vprintf (formatted : Option Bytes)
deriving DecidableEq

def perform (granted : Bool) (op : Op) (buf : Buf) : Option (Buf × Rc) :=
  match op with
  | .restart => some (buf.restart, .success)
  | .append str => buf.append granted str
  | .adjustAppend str leftAdjust inWidth outWidth => buf.adjustAppend granted str leftAdjust inWidth outWidth
  | .printfDec32 ui32 width => buf.printfDec32 granted ui32 width
  | .printfDec64 ui64 width => buf.printfDec64 granted ui64 width
  | .printfHex ui32 width => buf.printfHex granted ui32 width
  | .vprintf formatted => buf.vprintf granted formatted

def write (granted : Bool) (op : Op) (buf : Buf) : Option (Buf × Rc) :=
  (buf.perform granted op).bind fun result => if result.2 = .overflow then none else some result

def step (buf : Buf) (event : Op × Bool) : Option Buf := (buf.write event.2 event.1).map Prod.fst

end Buf

end Zlog
