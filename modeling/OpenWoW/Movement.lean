import OpenWoW.ByteBufferCalls

/-! Movement packets: their elements, and how the elements are written and read. -/
namespace OpenWoW.Movement

open ByteBuffer (Call)

inductive MovementStatusElement where
  | hasGuidByte (i : Fin 8)
  | hasMovementFlags | hasMovementFlags2 | hasTimestamp | hasOrientation | hasTransportData
  | hasTransportGuidByte (i : Fin 8)
  | hasTransportTime2 | hasTransportTime3 | hasPitch | hasFallData | hasFallDirection
  | hasSplineElevation | hasSpline
  | guidByte (i : Fin 8)
  | movementFlags | movementFlags2 | timestamp
  | positionX | positionY | positionZ | orientation
  | transportGuidByte (i : Fin 8)
  | transportPositionX | transportPositionY | transportPositionZ | transportOrientation
  | transportSeat | transportTime | transportTime2 | transportTime3
  | pitch | fallTime | fallVerticalSpeed | fallCosAngle | fallSinAngle | fallHorizontalSpeed
  | splineElevation
  | zeroBit | oneBit | hasCounter | counter | isAlive | alive
  deriving DecidableEq, Repr

/-- The bytes of a guid, the lowest first. -/
abbrev ObjectGuid := Fin 8 → UInt8

/-- A `float` is its bits. -/
abbrev Float := UInt32

/-- What is asked of floats: whether one is fuzzily zero, and `NormalizeOrientation`. -/
structure FloatMath where
  fuzzyZero : Float → Bool
  normalizeOrientation : Float → Float

structure Position where
  positionX : Float
  positionY : Float
  positionZ : Float
  orientation : Float
  deriving DecidableEq, Repr

def Position.setOrientation (math : FloatMath) (orientation : Float) (pos : Position) : Position :=
  { pos with orientation := math.normalizeOrientation orientation }

structure TransportInfo where
  guid : ObjectGuid
  pos : Position
  /-- An `int8` as its bits. -/
  seat : UInt8
  time : UInt32
  time2 : UInt32
  time3 : UInt32

structure JumpInfo where
  fallTime : UInt32
  zspeed : Float
  sinAngle : Float
  cosAngle : Float
  xyspeed : Float

structure MovementElementMarkers where
  hasTransportTime2 : Bool
  hasTransportTime3 : Bool
  hasPitch : Bool
  hasFallData : Bool
  hasFallDirection : Bool
  hasSplineElevation : Bool

structure MovementInfo where
  guid : ObjectGuid
  flags : UInt32
  flags2 : UInt16
  pos : Position
  time : UInt32
  transport : TransportInfo
  pitch : Float
  jump : JumpInfo
  splineElevation : Float
  bits : MovementElementMarkers

/-- The constructor, which leaves `splineElevation` as it finds it. -/
def MovementInfo.initial (splineElevation : Float) : MovementInfo where
  guid := fun _ => 0
  flags := 0
  flags2 := 0
  pos := ⟨0, 0, 0, 0⟩
  time := 0
  transport := ⟨fun _ => 0, ⟨0, 0, 0, 0⟩, 255, 0, 0, 0⟩
  pitch := 0
  jump := ⟨0, 0, 0, 0, 0⟩
  splineElevation := splineElevation
  bits := ⟨false, false, false, false, false, false⟩

/-- What `WriteMovementInfo` reads of a unit. `msTime` is the time when the packet is written. -/
structure MovingUnit where
  isPlayer : Bool
  guid : ObjectGuid
  transGuid : ObjectGuid
  pos : Position
  movementInfo : MovementInfo
  isSplineEnabled : Bool
  msTime : UInt32

abbrev movementFlagFalling : UInt32 := 0x00000800
abbrev movementFlagSwimming : UInt32 := 0x00100000
abbrev movementFlagFlying : UInt32 := 0x01000000
abbrev movementFlagSplineElevation : UInt32 := 0x02000000
abbrev movementFlag2AlwaysAllowPitching : UInt16 := 0x0010
abbrev movementFlag2InterpolatedMovement : UInt16 := 0x2000

def MovementInfo.hasMovementFlag (mi : MovementInfo) (flag : UInt32) : Bool := mi.flags &&& flag != 0

def MovementInfo.hasExtraMovementFlag (mi : MovementInfo) (flag : UInt16) : Bool :=
  mi.flags2 &&& flag != 0

namespace MovingUnit

variable (math : FloatMath) (u : MovingUnit)

def hasMovementFlags : Bool := u.movementInfo.flags != 0

def hasMovementFlags2 : Bool := u.movementInfo.flags2 != 0

def hasTimestamp : Bool := if u.isPlayer then u.movementInfo.time != 0 else true

def hasOrientation : Bool := !math.fuzzyZero u.pos.orientation

def hasTransportData : Bool := decide (∃ i, u.transGuid i ≠ 0)

def hasTransportTime2 : Bool :=
  if u.isPlayer then u.movementInfo.bits.hasTransportTime2
  else u.movementInfo.hasExtraMovementFlag movementFlag2InterpolatedMovement

def hasTransportTime3 : Bool := if u.isPlayer then u.movementInfo.bits.hasTransportTime3 else false

def hasPitch : Bool :=
  if u.isPlayer then u.movementInfo.bits.hasPitch
  else u.movementInfo.hasMovementFlag (movementFlagSwimming ||| movementFlagFlying) ||
    u.movementInfo.hasExtraMovementFlag movementFlag2AlwaysAllowPitching

def hasFallDirection : Bool :=
  if u.isPlayer then u.movementInfo.bits.hasFallDirection
  else u.movementInfo.hasMovementFlag movementFlagFalling

def hasFallData : Bool :=
  if u.isPlayer then u.movementInfo.bits.hasFallData
  else u.movementInfo.hasMovementFlag movementFlagFalling

def hasSplineElevation : Bool :=
  if u.isPlayer then u.movementInfo.bits.hasSplineElevation
  else u.movementInfo.hasMovementFlag movementFlagSplineElevation

def tguid : ObjectGuid := if u.hasTransportData then u.transGuid else fun _ => 0

def writeBit (bit : Bool) : List Call := [.writeBit bit]

def writeUInt8 (value : UInt8) : List Call := [.putInt .uint8 value.toBitVec]

def writeUInt32 (value : UInt32) : List Call := [.putInt .uint32 value.toBitVec]

def writeByteSeq (byte : UInt8) : List Call := if byte != 0 then writeUInt8 (byte ^^^ 1) else []

/-- The switch of `WriteMovementInfo`: the calls for one element. Its `isAlive` is false and its
`counter` zero. -/
def writeElement : MovementStatusElement → List Call
  | .hasGuidByte i => writeBit (u.guid i != 0)
  | .hasTransportGuidByte i => if u.hasTransportData then writeBit (u.tguid i != 0) else []
  | .guidByte i => writeByteSeq (u.guid i)
  | .transportGuidByte i => if u.hasTransportData then writeByteSeq (u.tguid i) else []
  | .hasMovementFlags => writeBit !u.hasMovementFlags
  | .hasMovementFlags2 => writeBit !u.hasMovementFlags2
  | .hasTimestamp => writeBit !u.hasTimestamp
  | .hasOrientation => writeBit !u.hasOrientation math
  | .hasTransportData => writeBit u.hasTransportData
  | .hasTransportTime2 => if u.hasTransportData then writeBit u.hasTransportTime2 else []
  | .hasTransportTime3 => if u.hasTransportData then writeBit u.hasTransportTime3 else []
  | .hasPitch => writeBit !u.hasPitch
  | .hasFallData => writeBit u.hasFallData
  | .hasFallDirection => if u.hasFallData then writeBit u.hasFallDirection else []
  | .hasSplineElevation => writeBit !u.hasSplineElevation
  | .hasSpline => writeBit u.isSplineEnabled
  | .movementFlags =>
    if u.hasMovementFlags then [.writeBits 30 (by decide) u.movementInfo.flags.toNat] else []
  | .movementFlags2 =>
    if u.hasMovementFlags2 then [.writeBits 13 (by decide) u.movementInfo.flags2.toNat] else []
  | .timestamp => if u.hasTimestamp then writeUInt32 u.msTime else []
  | .positionX => writeUInt32 u.pos.positionX
  | .positionY => writeUInt32 u.pos.positionY
  | .positionZ => writeUInt32 u.pos.positionZ
  | .orientation => if u.hasOrientation math then writeUInt32 u.pos.orientation else []
  | .transportPositionX =>
    if u.hasTransportData then writeUInt32 u.movementInfo.transport.pos.positionX else []
  | .transportPositionY =>
    if u.hasTransportData then writeUInt32 u.movementInfo.transport.pos.positionY else []
  | .transportPositionZ =>
    if u.hasTransportData then writeUInt32 u.movementInfo.transport.pos.positionZ else []
  | .transportOrientation =>
    if u.hasTransportData then writeUInt32 u.movementInfo.transport.pos.orientation else []
  | .transportSeat => if u.hasTransportData then writeUInt8 u.movementInfo.transport.seat else []
  | .transportTime => if u.hasTransportData then writeUInt32 u.movementInfo.transport.time else []
  | .transportTime2 =>
    if u.hasTransportData && u.hasTransportTime2 then
      writeUInt32 u.movementInfo.transport.time2
    else []
  | .transportTime3 =>
    if u.hasTransportData && u.hasTransportTime3 then
      writeUInt32 u.movementInfo.transport.time3
    else []
  | .pitch => if u.hasPitch then writeUInt32 u.movementInfo.pitch else []
  | .fallTime => if u.hasFallData then writeUInt32 u.movementInfo.jump.fallTime else []
  | .fallVerticalSpeed => if u.hasFallData then writeUInt32 u.movementInfo.jump.zspeed else []
  | .fallCosAngle =>
    if u.hasFallData && u.hasFallDirection then writeUInt32 u.movementInfo.jump.cosAngle else []
  | .fallSinAngle =>
    if u.hasFallData && u.hasFallDirection then writeUInt32 u.movementInfo.jump.sinAngle else []
  | .fallHorizontalSpeed =>
    if u.hasFallData && u.hasFallDirection then writeUInt32 u.movementInfo.jump.xyspeed else []
  | .splineElevation =>
    if u.hasSplineElevation then writeUInt32 u.movementInfo.splineElevation else []
  | .hasCounter => [.writeBits 22 (by decide) 0]
  | .counter => []
  | .isAlive => writeBit false
  | .alive => []
  | .zeroBit => writeBit false
  | .oneBit => writeBit true

/-- `WriteMovementInfo`, for the sequence that the opcode has. -/
def writeMovementInfo (sequence : List MovementStatusElement) (data : ByteBuffer) :
    Except Fault ByteBuffer :=
  ByteBuffer.writeAll (sequence.flatMap (u.writeElement math)) data

end MovingUnit

/-- The local variables of `ReadMovementInfo`, and the information that is filled in. -/
structure ReadState where
  mi : MovementInfo
  hasMovementFlags : Bool
  hasMovementFlags2 : Bool
  hasTimestamp : Bool
  hasOrientation : Bool
  hasTransportData : Bool
  isAlive : Bool
  counter : Nat
  guid : ObjectGuid
  tguid : ObjectGuid

def ReadState.initial (mi : MovementInfo) : ReadState :=
  ⟨mi, false, false, false, false, false, false, 0, fun _ => 0, fun _ => 0⟩

def readBit : Reader Bool := ByteBuffer.readBit

def readUInt8 : Reader UInt8 := do return UInt8.ofNat (← ByteBuffer.readInt 1)

def readUInt32 : Reader UInt32 := do return UInt32.ofNat (← ByteBuffer.readInt 4)

def readGuidBit (guid : ObjectGuid) (i : Fin 8) : Reader ObjectGuid := do
  return Function.update guid i (if ← readBit then 1 else 0)

/-- `ReadByteSeq` of a byte of a guid. -/
def readByteSeq (guid : ObjectGuid) (i : Fin 8) : Reader ObjectGuid :=
  if guid i != 0 then do return Function.update guid i (guid i ^^^ (← readUInt8)) else pure guid

/-- The switch of `ReadMovementInfo`. -/
def readElement (math : FloatMath) (r : ReadState) : MovementStatusElement → Reader ReadState
  | .hasGuidByte i => do return { r with guid := ← readGuidBit r.guid i }
  | .hasTransportGuidByte i =>
    if r.hasTransportData then do return { r with tguid := ← readGuidBit r.tguid i } else pure r
  | .guidByte i => do return { r with guid := ← readByteSeq r.guid i }
  | .transportGuidByte i =>
    if r.hasTransportData then do return { r with tguid := ← readByteSeq r.tguid i } else pure r
  | .hasMovementFlags => do return { r with hasMovementFlags := !(← readBit) }
  | .hasMovementFlags2 => do return { r with hasMovementFlags2 := !(← readBit) }
  | .hasTimestamp => do return { r with hasTimestamp := !(← readBit) }
  | .hasOrientation => do return { r with hasOrientation := !(← readBit) }
  | .hasTransportData => do return { r with hasTransportData := ← readBit }
  | .hasTransportTime2 =>
    if r.hasTransportData then do return { r with mi.bits.hasTransportTime2 := ← readBit }
    else pure r
  | .hasTransportTime3 =>
    if r.hasTransportData then do return { r with mi.bits.hasTransportTime3 := ← readBit }
    else pure r
  | .hasPitch => do return { r with mi.bits.hasPitch := !(← readBit) }
  | .hasFallData => do return { r with mi.bits.hasFallData := ← readBit }
  | .hasFallDirection =>
    if r.mi.bits.hasFallData then do return { r with mi.bits.hasFallDirection := ← readBit }
    else pure r
  | .hasSplineElevation => do return { r with mi.bits.hasSplineElevation := !(← readBit) }
  | .hasSpline => do
      let _ ← readBit
      return r
  | .movementFlags =>
    if r.hasMovementFlags then do
      return { r with mi.flags := UInt32.ofNat (← ByteBuffer.readBits 30) }
    else pure r
  | .movementFlags2 =>
    if r.hasMovementFlags2 then do
      return { r with mi.flags2 := UInt16.ofNat (← ByteBuffer.readBits 13) }
    else pure r
  | .timestamp => if r.hasTimestamp then do return { r with mi.time := ← readUInt32 } else pure r
  | .positionX => do return { r with mi.pos.positionX := ← readUInt32 }
  | .positionY => do return { r with mi.pos.positionY := ← readUInt32 }
  | .positionZ => do return { r with mi.pos.positionZ := ← readUInt32 }
  | .orientation =>
    if r.hasOrientation then do
      return { r with mi.pos := r.mi.pos.setOrientation math (← readUInt32) }
    else pure r
  | .transportPositionX =>
    if r.hasTransportData then do return { r with mi.transport.pos.positionX := ← readUInt32 }
    else pure r
  | .transportPositionY =>
    if r.hasTransportData then do return { r with mi.transport.pos.positionY := ← readUInt32 }
    else pure r
  | .transportPositionZ =>
    if r.hasTransportData then do return { r with mi.transport.pos.positionZ := ← readUInt32 }
    else pure r
  | .transportOrientation =>
    if r.hasTransportData then do
      return { r with mi.transport.pos := r.mi.transport.pos.setOrientation math (← readUInt32) }
    else pure r
  | .transportSeat =>
    if r.hasTransportData then do return { r with mi.transport.seat := ← readUInt8 } else pure r
  | .transportTime =>
    if r.hasTransportData then do return { r with mi.transport.time := ← readUInt32 } else pure r
  | .transportTime2 =>
    if r.hasTransportData && r.mi.bits.hasTransportTime2 then do
      return { r with mi.transport.time2 := ← readUInt32 }
    else pure r
  | .transportTime3 =>
    if r.hasTransportData && r.mi.bits.hasTransportTime3 then do
      return { r with mi.transport.time3 := ← readUInt32 }
    else pure r
  | .pitch => if r.mi.bits.hasPitch then do return { r with mi.pitch := ← readUInt32 } else pure r
  | .fallTime =>
    if r.mi.bits.hasFallData then do return { r with mi.jump.fallTime := ← readUInt32 } else pure r
  | .fallVerticalSpeed =>
    if r.mi.bits.hasFallData then do return { r with mi.jump.zspeed := ← readUInt32 } else pure r
  | .fallCosAngle =>
    if r.mi.bits.hasFallData && r.mi.bits.hasFallDirection then do
      return { r with mi.jump.cosAngle := ← readUInt32 }
    else pure r
  | .fallSinAngle =>
    if r.mi.bits.hasFallData && r.mi.bits.hasFallDirection then do
      return { r with mi.jump.sinAngle := ← readUInt32 }
    else pure r
  | .fallHorizontalSpeed =>
    if r.mi.bits.hasFallData && r.mi.bits.hasFallDirection then do
      return { r with mi.jump.xyspeed := ← readUInt32 }
    else pure r
  | .splineElevation =>
    if r.mi.bits.hasSplineElevation then do return { r with mi.splineElevation := ← readUInt32 }
    else pure r
  | .hasCounter => do return { r with counter := ← ByteBuffer.readBits 22 }
  | .counter => do
      -- one `read_skip<uint32>` a turn
      (List.range r.counter).forM fun _ => ByteBuffer.readSkip 4
      return r
  | .isAlive => do return { r with isAlive := !(← readBit) }
  | .alive => if r.isAlive then do return { r with mi.time := ← readUInt32 } else pure r
  | .zeroBit => do
      let _ ← readBit
      return r
  | .oneBit => do
      let _ ← readBit
      return r

def readElements (math : FloatMath) : List MovementStatusElement → ReadState → Reader ReadState
  | [], r => pure r
  | element :: sequence, r => do
      let r ← readElement math r element
      readElements math sequence r

/-- `ReadMovementInfo` up to the removal of flags. -/
def readMovementInfo (math : FloatMath) (sequence : List MovementStatusElement) (mi : MovementInfo) :
    Reader MovementInfo := do
  let r ← readElements math sequence (.initial mi)
  return { r.mi with guid := r.guid, transport.guid := r.tguid }

/-- The sequence of `PlayerMove`. -/
def playerMove : List MovementStatusElement :=
  [.hasGuidByte 0, .hasOrientation, .hasMovementFlags2, .hasGuidByte 5, .movementFlags2,
    .hasMovementFlags, .zeroBit, .hasCounter, .hasPitch, .hasSplineElevation, .zeroBit, .hasSpline,
    .hasGuidByte 7, .hasTransportData, .hasTransportGuidByte 6, .hasTransportTime2,
    .hasTransportGuidByte 0, .hasTransportGuidByte 3, .hasTransportTime3, .hasTransportGuidByte 7,
    .hasTransportGuidByte 4, .hasTransportGuidByte 1, .hasTransportGuidByte 5,
    .hasTransportGuidByte 2, .hasTimestamp, .hasGuidByte 4, .hasGuidByte 1, .hasFallData,
    .movementFlags, .hasFallDirection, .isAlive, .hasGuidByte 2, .hasGuidByte 3, .hasGuidByte 6,
    .transportGuidByte 4, .transportGuidByte 3, .transportGuidByte 1, .transportTime3,
    .transportPositionX, .transportGuidByte 0, .transportPositionZ, .transportPositionY,
    .transportOrientation, .transportGuidByte 2, .transportGuidByte 6, .transportTime2,
    .transportTime, .transportGuidByte 7, .transportSeat, .transportGuidByte 5, .guidByte 6,
    .isAlive, .fallVerticalSpeed, .fallHorizontalSpeed, .fallCosAngle, .fallSinAngle, .fallTime,
    .positionX, .counter, .guidByte 1, .positionY, .guidByte 2, .guidByte 7, .guidByte 5,
    .positionZ, .pitch, .guidByte 0, .guidByte 4, .splineElevation, .timestamp, .guidByte 3,
    .orientation]

end OpenWoW.Movement
