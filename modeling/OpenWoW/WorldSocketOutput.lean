import OpenWoW.Lib.Bits
import OpenWoW.Lib.Run
import OpenWoW.Lib.StreamCipher
import OpenWoW.WorldSocket

/-! How a world connection sends. -/
namespace OpenWoW.WorldSocket

/-- `ServerPktHeader`, for a size that counts the opcode. -/
structure ServerPktHeader where
  size : UInt32
  cmd : UInt16

namespace ServerPktHeader

def isLargePacket (header : ServerPktHeader) : Bool := 0x7FFF < header.size

def getHeaderLength (header : ServerPktHeader) : Nat := 2 + if header.isLargePacket then 3 else 2

/-- The bytes that the constructor writes. -/
def bytes (header : ServerPktHeader) : Bytes :=
  (if header.isLargePacket then [((0x80 : UInt32) ||| ((header.size >>> 16) &&& 0xFF)).toUInt8] else []) ++
    [(header.size &&& 0xFF).toUInt8, ((header.size >>> 8) &&& 0xFF).toUInt8,
      (header.cmd &&& 0xFF).toUInt8, ((header.cmd >>> 8) &&& 0xFF).toUInt8]

end ServerPktHeader

/-- The header of a packet as `SendPacket` makes it. -/
def pktHeader (packet : WorldPacket) : ServerPktHeader :=
  ⟨UInt32.ofNat (packet.contents.length + 2), UInt16.ofNat packet.opcode⟩

/-- The first four bytes of the header once the cipher is initialised. -/
def totalLength (packet : WorldPacket) : UInt32 :=
  (UInt32.ofNat packet.contents.length <<< 13) ||| (UInt32.ofNat packet.opcode &&& 0x1FFF)

def worldHeaderBytes (packet : WorldPacket) : Bytes :=
  let total := totalLength packet
  [(total &&& 0xFF).toUInt8, ((total >>> 8) &&& 0xFF).toUInt8, ((total >>> 16) &&& 0xFF).toUInt8,
    ((total >>> 24) &&& 0xFF).toUInt8] ++ (pktHeader packet).bytes.drop 4

/-- A block of the queue: its size and what is left of it. -/
structure MessageBlock where
  size : Nat
  bytes : Bytes
  deriving DecidableEq, Repr

/-- What `send` says: how many bytes it took, that it would block, or another error. -/
inductive SendResult where
  | sent (n : Nat)
  | wouldBlock
  | failed
  deriving DecidableEq, Repr

/-- The result of a call: minus one, zero or `WRITE_MASK`. -/
inductive CallResult where
  | failed | done | again
  deriving DecidableEq, Repr

structure Sending (κ : Type) where
  closing : Bool
  /-- The state of `m_Crypt` once it is initialised. -/
  crypt : Option κ
  outBuffer : Bytes
  outBufferSize : Nat
  queue : List MessageBlock
  outActive : Bool
  /-- The bytes that the socket took so far. -/
  wire : Bytes

def highWaterMark : Nat := 8 * 1024 * 1024

namespace Sending

variable {κ : Type} (cipher : StreamCipher κ UInt8) (s : Sending κ)

/-- A connection as `open` finds it. -/
def opened (outBufferSize : Nat) : Sending κ := ⟨false, none, [], outBufferSize, [], true, []⟩

def isFull : Bool := highWaterMark ≤ (s.queue.map (·.size)).sum

def encryptedHeader (packet : WorldPacket) : Bytes × Option κ :=
  match s.crypt with
  | none => ((pktHeader packet).bytes, none)
  | some key =>
    (cipher.encrypt key (worldHeaderBytes packet),
      some (cipher.advance (pktHeader packet).getHeaderLength key))

def frame (packet : WorldPacket) : Bytes := (s.encryptedHeader cipher packet).1 ++ packet.contents

def sendPacket (packet : WorldPacket) : Sending κ × CallResult :=
  if s.closing then (s, .failed)
  else
    let header := s.encryptedHeader cipher packet
    let s := { s with crypt := header.2 }
    let length := packet.contents.length + (pktHeader packet).getHeaderLength
    if length ≤ s.outBufferSize - s.outBuffer.length ∧ s.queue = [] then
      ({ s with outBuffer := s.outBuffer ++ header.1 ++ packet.contents }, .done)
    else if s.isFull then (s, .failed)
    else ({ s with queue := s.queue ++ [⟨length, header.1 ++ packet.contents⟩] }, .done)

/-- `cancel_wakeup_output` and `schedule_wakeup_output`, which fail when the reactor does. -/
def cancelWakeupOutput (reactor : Bool) : Sending κ × CallResult :=
  if s.outActive then ({ s with outActive := false }, if reactor then .done else .failed)
  else (s, .done)

def scheduleWakeupOutput (reactor : Bool) : Sending κ × CallResult :=
  if s.outActive then (s, .done)
  else ({ s with outActive := true }, if reactor then .done else .failed)

def handleOutputQueue (sent : SendResult) (reactor : Bool) : Sending κ × CallResult :=
  match s.queue with
  | [] => s.cancelWakeupOutput reactor
  | mblk :: queue =>
    let s := { s with queue := queue }
    match sent with
    | .failed => (s, .failed)
    | .wouldBlock =>
      -- the result of this `enqueue_head` is not looked at
      (if s.isFull then s else { s with queue := mblk :: s.queue }).scheduleWakeupOutput reactor
    | .sent n =>
      let s := { s with wire := s.wire ++ mblk.bytes.take n }
      if n = 0 then (s, .failed)
      else if n < mblk.bytes.length then
        if s.isFull then (s, .failed)
        else
          { s with queue := ⟨mblk.size, mblk.bytes.drop n⟩ :: s.queue }.scheduleWakeupOutput reactor
      else if s.queue = [] then s.cancelWakeupOutput reactor
      else (s, .again)

/-- `handle_output`, with what `send` says of the buffer and of the block at the head of the queue. -/
def handleOutput (buffer block : SendResult) (reactor : Bool) : Sending κ × CallResult :=
  if s.closing then (s, .failed)
  else if s.outBuffer.length = 0 then s.handleOutputQueue block reactor
  else
    match buffer with
    | .failed => (s, .failed)
    | .wouldBlock => s.scheduleWakeupOutput reactor
    | .sent n =>
      if n = 0 then (s, .failed)
      else
        let taken := { s with wire := s.wire ++ s.outBuffer.take n }
        if n < s.outBuffer.length then
          { taken with outBuffer := s.outBuffer.drop n }.scheduleWakeupOutput reactor
        else { taken with outBuffer := [] }.handleOutputQueue block reactor

/-- The calls of a connection, and the initialisation of its cipher. -/
inductive Call (κ : Type) where
  | sendPacket (packet : WorldPacket)
  | handleOutput (buffer block : SendResult) (reactor : Bool)
  | initCrypt (key : κ)

def step (s : Sending κ) : Call κ → Sending κ × CallResult
  | .sendPacket packet => s.sendPacket cipher packet
  | .handleOutput buffer block reactor => s.handleOutput buffer block reactor
  | .initCrypt key => ({ s with crypt := some key }, .done)

end Sending

end OpenWoW.WorldSocket
