import OpenWoW.Lib.Bits
import OpenWoW.Lib.StreamCipher
import OpenWoW.WorldSocket

/-! How a world connection receives: bytes come in pieces and become packets for `ProcessIncoming`. -/
namespace OpenWoW.WorldSocket

/-- What is behind the receiver: the cipher of the headers, and `ProcessIncoming`, which may
initialise the cipher and fails when it returns minus one. -/
structure Receiver (σ κ : Type) where
  cipher : StreamCipher κ UInt8
  processIncoming : σ → Option κ → WorldPacket → (σ × Option κ) × Bool

/-- How reception ends: the connection is closed, or an `ACE_ASSERT` fails. -/
inductive Halt where
  | closed | assertion
  deriving DecidableEq, Repr

/-- The buffers of a connection that receives. -/
structure Reception (σ κ : Type) where
  server : σ
  /-- The state of `m_Crypt` once it is initialised. -/
  crypt : Option κ
  header : Bytes
  worldHeader : Bytes
  /-- The bytes in `m_RecvPct`, and how many it can hold. They are the contents of the packet. -/
  recvPct : Bytes
  recvSize : Nat
  /-- The opcode of `m_RecvWPct`. -/
  recvWPct : Option Nat
  /-- The packets that `ProcessIncoming` was given. -/
  handed : List WorldPacket

/-- What a step of reception gives, or how reception ended and after which packets. -/
abbrev Receiving := Except (Halt × List WorldPacket)

/-- `sizeof(ClientPktHeader)` and `sizeof(WorldPktHeader)`. -/
abbrev headerSize : Nat := 6
abbrev worldHeaderSize : Nat := 4

namespace Reception

variable {σ κ : Type}

/-- The constructor. -/
def start (server : σ) (crypt : Option κ) : Reception σ κ :=
  ⟨server, crypt, [], [], [], 0, none, []⟩

variable (receiver : Receiver σ κ) (r : Reception σ κ)

/-- `ACE_ASSERT`. -/
def assert (condition : Prop) [Decidable condition] : Receiving Unit :=
  if condition then .ok () else .error (.assertion, r.handed)

def close {α : Type} : Receiving α := .error (.closed, r.handed)

/-- The new packet of `handle_input_header`. -/
def expect (opcode size : Nat) : Receiving (Reception σ κ) :=
  let r := { r with recvWPct := some (opcode % 0x10000) }
  if 0 < size then .ok { r with recvPct := [], recvSize := size }
  else do
    r.assert (r.recvSize - r.recvPct.length = 0)
    return r

/-- The opcode and the `uint16` size of a header that came after the cipher was initialised. -/
def worldOpcode (val : UInt32) : Nat := (val &&& 0x1FFF).toNat

def worldSize (val : UInt32) : UInt16 := ((val &&& ~~~0xFFF) >>> 13).toUInt16

def handleInputHeader : Receiving (Reception σ κ) := do
  r.assert (r.recvWPct = none)
  match r.crypt with
  | some key =>
    let authHeader := receiver.cipher.decrypt key r.worldHeader
    let r := { r with
      worldHeader := authHeader
      crypt := some (receiver.cipher.advance worldHeaderSize key) }
    let val := UInt32.ofNat (Bits.leValue authHeader)
    let opcode := worldOpcode val
    let size := worldSize val
    if 20240 < size ∨ 0xFFFF ≤ opcode then r.close else r.expect opcode size.toNat
  | none =>
    let size := Bits.leValue (r.header.take 2)
    let cmd := Bits.leValue (r.header.drop 2)
    if size < 4 ∨ 10240 < size ∨ 0xFFFF < cmd ∧ cmd >>> 16 ≠ 0x4C52 then r.close
    else
      let r := { r with header := Bits.leBytes 2 (size - 4) ++ r.header.drop 2 }
      r.expect cmd (size - 4)

/-- `handle_input_payload`. The header that is reset is that of the cipher at its start. -/
def handleInputPayload : Receiving (Reception σ κ) := do
  r.assert (r.recvSize - r.recvPct.length = 0)
  r.assert (if r.crypt.isSome then r.worldHeader.length = worldHeaderSize
    else r.header.length = headerSize)
  match r.recvWPct with
  | none => .error (.assertion, r.handed)
  | some opcode =>
    let packet : WorldPacket := ⟨opcode, r.recvPct⟩
    let processed := receiver.processIncoming r.server r.crypt packet
    let after : Reception σ κ :=
      { server := processed.1.1
        crypt := processed.1.2
        header := if r.crypt.isSome then r.header else []
        worldHeader := if r.crypt.isSome then [] else r.worldHeader
        recvPct := []
        recvSize := 0
        recvWPct := none
        handed := r.handed ++ [packet] }
    if processed.2 then .ok after else after.close

/-- The payload part of a turn of the loop, on what is left of the message. -/
def receivePayload (message : Bytes) : Receiving (Reception σ κ × Bytes) := do
  if r.recvWPct = none then r.close
  else
    let space := r.recvSize - r.recvPct.length
    if 0 < space then
      let toData := min message.length space
      let r := { r with recvPct := r.recvPct ++ message.take toData }
      let message := message.drop toData
      if toData < space then
        r.assert (message.length = 0)
        return (r, [])
      else
        let r ← r.handleInputPayload receiver
        return (r, message)
    else
      let r ← r.handleInputPayload receiver
      return (r, message)

/-- A turn of the loop of `handle_input_missing_data`: the header that is in use, then the payload.
Where a header or payload is not complete the function returns, with nothing left. -/
def turn (message : Bytes) : Receiving (Reception σ κ × Bytes) := do
  if r.crypt.isSome then
    let space := worldHeaderSize - r.worldHeader.length
    if 0 < space then
      let toHeader := min message.length space
      let r := { r with worldHeader := r.worldHeader ++ message.take toHeader }
      let message := message.drop toHeader
      if toHeader < space then
        r.assert (message.length = 0)
        return (r, [])
      else
        let r ← r.handleInputHeader receiver
        r.receivePayload receiver message
    else r.receivePayload receiver message
  else
    let space := headerSize - r.header.length
    if 0 < space then
      let toHeader := min message.length space
      let r := { r with header := r.header ++ message.take toHeader }
      let message := message.drop toHeader
      if toHeader < space then
        r.assert (message.length = 0)
        return (r, [])
      else
        let r ← r.handleInputHeader receiver
        r.receivePayload receiver message
    else r.receivePayload receiver message

/-- The loop, as many turns long as the message has bytes. -/
def turns : Nat → Reception σ κ → Bytes → Receiving (Reception σ κ)
  | 0, r, _ => .ok r
  | _ + 1, r, [] => .ok r
  | fuel + 1, r, message => do
      let (r, message) ← r.turn receiver message
      turns fuel r message

/-- `handle_input_missing_data`, for the bytes that `recv` gave. Its result only says whether output is
to be flushed. -/
def handleInputMissingData (message : Bytes) : Receiving (Reception σ κ) :=
  turns receiver message.length r message

/-- The pieces that `recv` gave, until the connection is closed. -/
def receiveAll (chunks : List Bytes) : Receiving (Reception σ κ) :=
  chunks.foldlM (fun r chunk => r.handleInputMissingData receiver chunk) r

end Reception

end OpenWoW.WorldSocket
