import RamsesProxy.Lib.CText

set_option autoImplicit false

namespace Rart

open CText

abbrev headerLength : Nat := 4
abbrev peerLengthSize : Nat := 4
abbrev maxPayloadSize : Nat := 1024
abbrev payloadCapacity : Nat := headerLength + peerLengthSize + maxPayloadSize

-- The two lengths are the uint32_t members. payload is the whole m_payload array:
-- the length of what follows as four characters, the length of the peer text as four
-- characters, the peer text, the datagram.
structure RouterPacket where
  payloadLength : UInt32
  peerLength : UInt32
  payload : CharArray payloadCapacity

namespace RouterPacket

def create : RouterPacket := ⟨0, 0, CharArray.zeroed⟩

def clear (_packet : RouterPacket) : RouterPacket := ⟨0, 0, CharArray.zeroed⟩

-- The sum is one of uint32_t, as in the source: it wraps for lengths near 2^32.
def copyLength (packet : RouterPacket) : Nat := (8 + packet.payloadLength).toNat

def copy (target other : RouterPacket) : RouterPacket where
  payloadLength := other.payloadLength
  peerLength := other.peerLength
  payload :=
    if 0 < other.payloadLength then target.payload.memcpy 0 (other.payload.slice 0 other.copyLength)
    else target.payload

-- The copy constructor runs copy on raw memory, and the bytes it does not reach keep
-- whatever was there.
def copyConstruct (raw : CharArray payloadCapacity) (other : RouterPacket) : RouterPacket := copy ⟨0, 0, raw⟩ other

def dataLength (packet : RouterPacket) : UInt32 := 4 + packet.payloadLength

def data (packet : RouterPacket) : Bytes := packet.payload.slice 0 packet.dataLength.toNat

def packetDataLength (packet : RouterPacket) : UInt32 := packet.payloadLength - packet.peerLength - 4

def decodeHeader (packet : RouterPacket) : RouterPacket × Bool :=
  let header := strncat [] (packet.payload.slice 0 headerLength) headerLength
  let length := UInt32.ofInt (atoi header)
  if length > 1024 then ({ packet with payloadLength := 0 }, false)
  else ({ packet with payloadLength := length }, true)

def decodePeer (packet : RouterPacket) : RouterPacket × Bool :=
  let peer := strncat [] (packet.payload.slice headerLength peerLengthSize) peerLengthSize
  let length := UInt32.ofInt (atoi peer)
  if length > packet.payloadLength then ({ packet with peerLength := 0 }, false)
  else ({ packet with peerLength := length }, true)

-- %4d takes the uint32_t for a signed int.
def lengthText (length : UInt32) : Bytes := printfD 4 ((length.toNat : Int).bmod (2 ^ 32))

def encodeHeader (packet : RouterPacket) : RouterPacket :=
  let headed := packet.payload.memcpy 0 ((lengthText packet.payloadLength).take headerLength)
  { packet with payload := headed.memcpy headerLength ((lengthText packet.peerLength).take peerLengthSize) }

def getPeerData (packet : RouterPacket) (size : UInt32) : Option Bytes :=
  if 0 < packet.peerLength ∧ packet.peerLength < size then
    some (strncat [] (packet.payload.slice (headerLength + peerLengthSize) packet.peerLength.toNat) packet.peerLength.toNat)
  else none

def setPeerData (packet : RouterPacket) (peer : Bytes) : RouterPacket :=
  { packet with
    peerLength := UInt32.ofNat peer.length
    payload := packet.payload.memcpy (headerLength + peerLengthSize) peer }

def packetDataOffset (packet : RouterPacket) : Nat := headerLength + peerLengthSize + packet.peerLength.toNat

def setPacketData (packet : RouterPacket) (data : Bytes) : RouterPacket :=
  { packet with
    payloadLength := UInt32.ofNat data.length + packet.peerLength + 4
    payload := packet.payload.memcpy packet.packetDataOffset data }

def contents (packet : RouterPacket) : UInt32 × UInt32 × Bytes :=
  (packet.payloadLength, packet.peerLength,
    if 0 < packet.payloadLength then packet.payload.slice 0 packet.copyLength else [])

theorem copy_load (target other : RouterPacket) (index : Nat) (nonempty : 0 < other.payloadLength)
    (within : index < other.copyLength) : (copy target other).payload.load index = other.payload.load index := by
  simp only [copy, if_pos nonempty]
  exact CharArray.load_memcpy_slice target.payload other.payload other.copyLength index within

theorem copy_contents (target other : RouterPacket) : (copy target other).contents = other.contents := by
  by_cases nonempty : 0 < other.payloadLength
  · have bytes : (copy target other).payload.slice 0 other.copyLength = other.payload.slice 0 other.copyLength := by
      apply CharArray.slice_congr
      intro index _ within
      exact copy_load target other index nonempty (by simpa using within)
    have lengths : (copy target other).copyLength = other.copyLength := rfl
    have payloadLengths : (copy target other).payloadLength = other.payloadLength := rfl
    simp only [contents, payloadLengths, if_pos nonempty, lengths, bytes]
    rfl
  · have payloadLengths : (copy target other).payloadLength = other.payloadLength := rfl
    simp only [contents, payloadLengths, if_neg nonempty]
    rfl

theorem copy_length_exact (packet : RouterPacket) (bounded : packet.payloadLength ≤ 1024) :
    packet.copyLength = 8 + packet.payloadLength.toNat := by
  have small : packet.payloadLength.toNat ≤ 1024 := by simpa [UInt32.le_iff_toNat_le] using bounded
  rw [copyLength, UInt32.toNat_add]
  simp only [UInt32.reduceToNat]
  omega

theorem copy_slice (target other : RouterPacket) (offset count : Nat) (bounded : other.payloadLength ≤ 1024)
    (nonempty : 0 < other.payloadLength) (within : offset + count ≤ 8 + other.payloadLength.toNat) :
    (copy target other).payload.slice offset count = other.payload.slice offset count := by
  apply CharArray.slice_congr
  intro index _ high
  apply copy_load target other index nonempty
  rw [copy_length_exact other bounded]
  omega

theorem copy_peer_data (target other : RouterPacket) (size : UInt32) (bounded : other.payloadLength ≤ 1024)
    (within : other.peerLength.toNat + 4 ≤ other.payloadLength.toNat) :
    (copy target other).getPeerData size = other.getPeerData size := by
  have nonempty : 0 < other.payloadLength := by
    rw [UInt32.lt_iff_toNat_lt]
    exact Nat.lt_of_lt_of_le (Nat.succ_pos _) within
  have bytes := copy_slice target other (headerLength + peerLengthSize) other.peerLength.toNat bounded nonempty
    (by simp only [headerLength, peerLengthSize]; omega)
  have lengths : (copy target other).peerLength = other.peerLength := rfl
  simp only [getPeerData, lengths, bytes]

end RouterPacket

end Rart
