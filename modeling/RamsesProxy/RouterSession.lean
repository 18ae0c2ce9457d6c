import RamsesProxy.RouterPacket
import RamsesProxy.AdrTuple
import RamsesProxy.Lib.Machine

set_option autoImplicit false

namespace Rart

-- What a session has started and asio has not finished. A connect carries the
-- iterator its handler was bound with, which is already past the endpoint tried;
-- close is the handler close_session posts to the io_service.
inductive SessionOp (Addr : Type) where
  | resolve
  | connect (target : Endpoint Addr) (next : List (Endpoint Addr))
  | write (packet : RouterPacket)
  | readHeader
  | readPayload (size : Nat)
  | close

namespace SessionOp

variable {Addr : Type}

def readSize : SessionOp Addr → Option Nat
  | .readHeader => some headerLength
  | .readPayload size => some size
  | .resolve | .connect _ _ | .write _ | .close => none

def isClose : SessionOp Addr → Bool
  | .close => true
  | .resolve | .connect _ _ | .write _ | .readHeader | .readPayload _ => false

end SessionOp

-- asio never reports success with an end iterator.
inductive ResolveResult (Addr : Type) where
  | found (first : Endpoint Addr) (next : List (Endpoint Addr))
  | failed (iterator : List (Endpoint Addr))

inductive Completion (Addr : Type) where
  | resolved (result : ResolveResult Addr)
  | connected (error : Bool)
  | written (error : Bool)
  | read (error : Bool) (bytes : Bytes)
  | posted

structure RouterSession (Addr : Type) where
  udpTuple : AdrTuple Addr
  socketOpen : Bool
  fromTcpPacket : RouterPacket
  udpPacketQueue : List RouterPacket
  pending : List (SessionOp Addr)
  -- Not members of the class: every operation ever started, and whether
  -- handle_connection has found the socket connected.
  started : List (SessionOp Addr)
  established : Bool

namespace RouterSession

variable {Addr : Type}

def create (tuple : AdrTuple Addr) : RouterSession Addr where
  udpTuple := tuple
  socketOpen := false
  fromTcpPacket := .create
  udpPacketQueue := []
  pending := []
  started := []
  established := false

def startOp (session : RouterSession Addr) (op : SessionOp Addr) : RouterSession Addr :=
  { session with pending := session.pending ++ [op], started := session.started ++ [op] }

def closeSession (session : RouterSession Addr) : RouterSession Addr := session.startOp .close

def start (session : RouterSession Addr) : RouterSession Addr := session.startOp .resolve

-- asio opens the socket when it starts to connect.
def asyncConnect (session : RouterSession Addr) (endpoint : Endpoint Addr) (next : List (Endpoint Addr)) :
    RouterSession Addr :=
  { session with socketOpen := true }.startOp (.connect endpoint next)

def deliverToTcpPeer (session : RouterSession Addr) : RouterSession Addr :=
  if session.socketOpen = false then session.start
  else match session.udpPacketQueue with
    | [] => session
    | packetToTcp :: _ => session.startOp (.write packetToTcp)

def startReadFromTcp (session : RouterSession Addr) : RouterSession Addr := session.startOp .readHeader

def addRouterPacket (raw : CharArray payloadCapacity) (udpPacket : RouterPacket) (session : RouterSession Addr) :
    RouterSession Addr :=
  let writeInProgress := !session.udpPacketQueue.isEmpty
  let pushed := { session with udpPacketQueue := session.udpPacketQueue ++ [.copyConstruct raw udpPacket] }
  if writeInProgress = false then pushed.deliverToTcpPeer else pushed

def handleConnection (error : Bool) (iterator : List (Endpoint Addr)) (session : RouterSession Addr) :
    RouterSession Addr :=
  if error = false ∧ session.socketOpen = true then
    { session with established := true }.deliverToTcpPeer.startReadFromTcp
  else match iterator with
    | endpoint :: next => { session with socketOpen := false }.asyncConnect endpoint next
    | [] => session.closeSession

def handleResolve (result : ResolveResult Addr) (session : RouterSession Addr) : RouterSession Addr :=
  match result with
  | .found endpoint next => session.asyncConnect endpoint next
  | .failed (endpoint :: next) => { session with socketOpen := false }.asyncConnect endpoint next
  | .failed [] => session.closeSession

def handleDeliverTcp (error : Bool) (session : RouterSession Addr) : RouterSession Addr :=
  if error = false then
    let popped := { session with udpPacketQueue := session.udpPacketQueue.tail }
    if popped.udpPacketQueue.isEmpty = false then popped.deliverToTcpPeer else popped
  else session.closeSession

def handleReadHeader (error : Bool) (bytesLength : Nat) (session : RouterSession Addr) : RouterSession Addr :=
  if bytesLength = 0 then session.closeSession
  else if error = false then
    let (packet, decoded) := session.fromTcpPacket.decodeHeader
    let updated := { session with fromTcpPacket := packet }
    if decoded = true then updated.startOp (.readPayload packet.payloadLength.toNat) else updated.closeSession
  else session.closeSession

-- The packet returned is the one handed to SessionManager::add_tcp_packet. Neither
-- that call nor the delivery after it touches the session, so they are left to the caller.
def handleReadPayload (error : Bool) (bytesLength : Nat) (session : RouterSession Addr) :
    RouterSession Addr × Option RouterPacket :=
  let checked := if bytesLength = 0 then session.closeSession else session
  if error = false then
    if bytesLength = 0 then ({ checked with fromTcpPacket := checked.fromTcpPacket.clear }, none)
    else
      let (packet, decoded) := checked.fromTcpPacket.decodePeer
      let cleared := { checked with fromTcpPacket := packet.clear }
      if decoded = true then (cleared.startReadFromTcp, some packet) else (cleared, none)
  else (checked.closeSession, none)

def storeRead (session : RouterSession Addr) (offset : Nat) (bytes : Bytes) : RouterSession Addr :=
  { session with
    fromTcpPacket := { session.fromTcpPacket with payload := session.fromTcpPacket.payload.memcpy offset bytes } }

-- async_read reports success only when the whole buffer is full.
def readFits (size : Nat) (error : Bool) (bytes : Bytes) : Bool :=
  bytes.length ≤ size && (error || bytes.length == size)

-- The handler of a finished operation. There is none for an outcome the operation
-- cannot have. The close handler belongs to the SessionManager and leaves the session alone.
def handle (op : SessionOp Addr) (completion : Completion Addr) (session : RouterSession Addr) :
    Option (RouterSession Addr × Option RouterPacket) :=
  match op, completion with
  | .resolve, .resolved result => some (session.handleResolve result, none)
  | .connect _ next, .connected error => some (session.handleConnection error next, none)
  | .write _, .written error => some (session.handleDeliverTcp error, none)
  | .readHeader, .read error bytes =>
      if readFits headerLength error bytes = true then
        some ((session.storeRead 0 bytes).handleReadHeader error bytes.length, none)
      else none
  | .readPayload size, .read error bytes =>
      if readFits size error bytes = true then
        some ((session.storeRead headerLength bytes).handleReadPayload error bytes.length)
      else none
  | .close, .posted => some (session, none)
  | _, _ => none

inductive Handled (session : RouterSession Addr) :
    SessionOp Addr → Completion Addr → RouterSession Addr → Option RouterPacket → Prop where
  | resolve (result : ResolveResult Addr) : Handled session .resolve (.resolved result) (session.handleResolve result) none
  | connect (target : Endpoint Addr) (next : List (Endpoint Addr)) (error : Bool) :
      Handled session (.connect target next) (.connected error) (session.handleConnection error next) none
  | write (packet : RouterPacket) (error : Bool) :
      Handled session (.write packet) (.written error) (session.handleDeliverTcp error) none
  | readHeader (error : Bool) (bytes : Bytes) (fits : readFits headerLength error bytes = true) :
      Handled session .readHeader (.read error bytes) ((session.storeRead 0 bytes).handleReadHeader error bytes.length) none
  | readPayload (size : Nat) (error : Bool) (bytes : Bytes) (fits : readFits size error bytes = true) :
      Handled session (.readPayload size) (.read error bytes)
        ((session.storeRead headerLength bytes).handleReadPayload error bytes.length).1
        ((session.storeRead headerLength bytes).handleReadPayload error bytes.length).2
  | close : Handled session .close .posted session none

def finishOp (session : RouterSession Addr) (index : Nat) : RouterSession Addr :=
  { session with pending := session.pending.eraseIdx index }

def complete (session : RouterSession Addr) (index : Nat) (completion : Completion Addr) :
    Option (RouterSession Addr × Option RouterPacket) :=
  match session.pending[index]? with
  | none => none
  | some op => (session.finishOp index).handle op completion

section Fields

variable (session : RouterSession Addr) (op : SessionOp Addr)

@[simp] theorem start_op_pending : (session.startOp op).pending = session.pending ++ [op] := rfl
@[simp] theorem start_op_started : (session.startOp op).started = session.started ++ [op] := rfl
@[simp] theorem start_op_tuple : (session.startOp op).udpTuple = session.udpTuple := rfl
@[simp] theorem start_op_socket : (session.startOp op).socketOpen = session.socketOpen := rfl
@[simp] theorem start_op_queue : (session.startOp op).udpPacketQueue = session.udpPacketQueue := rfl
@[simp] theorem start_op_established : (session.startOp op).established = session.established := rfl

@[simp] theorem finish_op_pending (index : Nat) :
    (session.finishOp index).pending = session.pending.eraseIdx index := rfl
@[simp] theorem finish_op_started (index : Nat) : (session.finishOp index).started = session.started := rfl
@[simp] theorem finish_op_tuple (index : Nat) : (session.finishOp index).udpTuple = session.udpTuple := rfl
@[simp] theorem finish_op_socket (index : Nat) : (session.finishOp index).socketOpen = session.socketOpen := rfl
@[simp] theorem finish_op_queue (index : Nat) :
    (session.finishOp index).udpPacketQueue = session.udpPacketQueue := rfl
@[simp] theorem finish_op_established (index : Nat) :
    (session.finishOp index).established = session.established := rfl

end Fields

theorem handled_of_handle {session next : RouterSession Addr} {op : SessionOp Addr} {completion : Completion Addr}
    {packet : Option RouterPacket} (handled : session.handle op completion = some (next, packet)) :
    Handled session op completion next packet := by
  unfold handle at handled
  split at handled
  · cases handled
    exact .resolve _
  · cases handled
    exact .connect _ _ _
  · cases handled
    exact .write _ _
  · obtain ⟨fits, same⟩ := Option.ite_none_right_eq_some.mp handled
    cases same
    exact .readHeader _ _ fits
  · rename_i size error bytes
    obtain ⟨fits, same⟩ := Option.ite_none_right_eq_some.mp handled
    obtain ⟨sameNext, samePacket⟩ := Prod.mk.inj (Option.some.inj same)
    rw [← sameNext, ← samePacket]
    exact .readPayload size error bytes fits
  · cases handled
    exact .close
  · cases handled

theorem read_fits_whole (size : Nat) (bytes : Bytes) (fits : readFits size false bytes = true) : bytes.length = size := by
  simp only [readFits, Bool.and_eq_true, Bool.false_or, beq_iff_eq] at fits
  exact fits.2

theorem complete_some (session next : RouterSession Addr) (packet : Option RouterPacket) (index : Nat)
    (completion : Completion Addr) (completed : session.complete index completion = some (next, packet)) :
    ∃ op, session.pending[index]? = some op ∧ (session.finishOp index).handle op completion = some (next, packet) := by
  unfold complete at completed
  split at completed
  · cases completed
  · rename_i op found
    exact ⟨op, found, completed⟩

theorem complete_found (session next : RouterSession Addr) (packet : Option RouterPacket) (index : Nat) (op : SessionOp Addr)
    (completion : Completion Addr) (found : session.pending[index]? = some op)
    (completed : session.complete index completion = some (next, packet)) :
    (session.finishOp index).handle op completion = some (next, packet) := by
  obtain ⟨other, otherFound, handled⟩ := complete_some session next packet index completion completed
  obtain rfl := Option.some.inj (found.symm.trans otherFound)
  exact handled

end RouterSession

end Rart
