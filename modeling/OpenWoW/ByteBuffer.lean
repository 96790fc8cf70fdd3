import OpenWoW.Lib.Bits

namespace OpenWoW

/-- A `std::string` is its bytes. -/
abbrev Bytes := List UInt8

/-- The ways a `ByteBuffer` call can end without returning. The numbers are the
constructor arguments in the order in which the throwing call passes them. -/
inductive Fault
  | positionException (add : Bool) (pos size valueSize : Nat)
  | sourceException (pos size valueSize : Nat)
  | assertion
  deriving DecidableEq, Repr

structure ByteBuffer where
  storage : Bytes
  rpos : Nat
  wpos : Nat
  /-- Counts down from 8 while bits are written and up from 0 while bits are read. -/
  bitpos : Nat
  curbitval : UInt8
  deriving DecidableEq, Repr

abbrev Reader := StateT ByteBuffer (Except Fault)

namespace ByteBuffer

/-- The default constructor. -/
def fresh : ByteBuffer := ⟨[], 0, 0, 8, 0⟩

def size (b : ByteBuffer) : Nat := b.storage.length

/-- The limit that `append` asserts on the bytes stored so far. -/
def maxSize : Nat := 10000000

/-- `_storage.resize(_wpos + cnt)` where that grows the vector, then the copy. -/
def overwrite (storage : Bytes) (pos : Nat) (src : Bytes) : Bytes :=
  let grown := storage ++ List.replicate (pos + src.length - storage.length) 0
  grown.take pos ++ src ++ grown.drop (pos + src.length)

/-- `append(const uint8*, size_t)`. Pending bits are not flushed here. -/
def append (src : Bytes) (b : ByteBuffer) : Except Fault ByteBuffer :=
  if src.length = 0 then .error (.sourceException b.wpos b.size src.length)
  else if b.size < maxSize then
    .ok { b with storage := overwrite b.storage b.wpos src, wpos := b.wpos + src.length }
  else .error .assertion

def flushBits (b : ByteBuffer) : Except Fault ByteBuffer := do
  if b.bitpos = 8 then return b
  let b ← append [b.curbitval] b
  return { b with curbitval := 0, bitpos := 8 }

/-- `append<T>`: unlike the pointer overload it flushes pending bits first. The
host is little-endian, so `EndianConvert` is the identity. -/
def appendInt (width value : Nat) (b : ByteBuffer) : Except Fault ByteBuffer := do
  let b ← flushBits b
  append (Bits.leBytes width value) b

def writeBit (bit : Bool) (b : ByteBuffer) : Except Fault ByteBuffer := do
  -- `--_bitpos` on a size_t
  let bitpos := (b.bitpos + (2 ^ 64 - 1)) % 2 ^ 64
  let curbitval := if bit then b.curbitval ||| Bits.bit8 bitpos else b.curbitval
  if bitpos = 0 then
    let b ← append [curbitval] { b with bitpos := 8, curbitval := curbitval }
    return { b with curbitval := 0 }
  else
    return { b with bitpos := bitpos, curbitval := curbitval }

/-- `WriteBits`: the loop runs from the highest of the `bits` bits down. -/
def writeBits (value : Nat) : Nat → ByteBuffer → Except Fault ByteBuffer
  | 0, b => .ok b
  | i + 1, b => do
      let b ← writeBit (value.testBit i) b
      writeBits value i b

/-- `operator<<(std::string)`: the characters go through the pointer overload and
only the terminator flushes pending bits. -/
def putString (text : Bytes) (b : ByteBuffer) : Except Fault ByteBuffer := do
  let b ← if text.length = 0 then pure b else append text b
  appendInt 1 0 b

def writeString (text : Bytes) (b : ByteBuffer) : Except Fault ByteBuffer :=
  if text.length = 0 then .ok b else append text b

/-- `read(uint8*, size_t)`, which is also what `read<T>` does with `sizeof(T)`. -/
def read (len : Nat) : Reader Bytes := fun b =>
  if b.size < b.rpos + len then .error (.positionException false b.rpos len b.size)
  else .ok ((b.storage.drop b.rpos).take len, { b with rpos := b.rpos + len })

def readInt (width : Nat) : Reader Nat := do
  let bytes ← read width
  return Bits.leValue bytes

def readSkip (skip : Nat) : Reader Unit := fun b =>
  if b.size < b.rpos + skip then .error (.positionException false b.rpos skip b.size)
  else .ok ((), { b with rpos := b.rpos + skip })

def readBit : Reader Bool := fun b => do
  let bitpos := b.bitpos + 1
  if 7 < bitpos then
    let (value, b) ← readInt 1 b
    let curbitval := UInt8.ofNat value
    return (Bits.msb curbitval 0, { b with bitpos := 0, curbitval := curbitval })
  else
    return (Bits.msb b.curbitval bitpos, { b with bitpos := bitpos })

/-- The loop of `ReadBits` with its `uint32` accumulator. -/
def readBitsLoop : Nat → Nat → Reader Nat
  | 0, value => pure value
  | i + 1, value => do
      let bit ← readBit
      readBitsLoop i (if bit then (value ||| 1 <<< i) % 2 ^ 32 else value)

def readBits (bits : Nat) : Reader Nat := readBitsLoop bits 0

/-- The loop of `operator>>(std::string)`. Each turn consumes one byte, so the
bytes left bound the number of turns. -/
def getStringLoop : Nat → Bytes → Reader Bytes
  | 0, value => pure value
  | turns + 1, value => fun b =>
    if b.rpos < b.size then
      (do
        let char ← readInt 1
        if char = 0 then pure value
        else getStringLoop turns (value ++ [UInt8.ofNat char])) b
    else .ok (value, b)

def getString : Reader Bytes := fun b => getStringLoop (b.size - b.rpos) [] b

/-- `ReadString` goes through a C string, so a NUL ends the result early. -/
def readString (length : Nat) : Reader Bytes := do
  if length = 0 then return []
  let buffer ← read length
  return buffer.takeWhile (· ≠ 0)

end ByteBuffer

end OpenWoW
