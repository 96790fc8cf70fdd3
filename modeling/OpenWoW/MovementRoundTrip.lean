import Mathlib
import OpenWoW.ByteBufferRoundTrip
import OpenWoW.Movement

/-! The reader of movement packets follows the writer. -/
namespace OpenWoW.Movement

open List Function

open ByteBuffer

namespace MovementStatusElement

def guards : MovementStatusElement → List MovementStatusElement
  | guidByte i => [hasGuidByte i]
  | transportGuidByte i => [hasTransportData, hasTransportGuidByte i]
  | hasTransportGuidByte _ | hasTransportTime2 | hasTransportTime3 => [hasTransportData]
  | hasFallDirection => [hasFallData]
  | movementFlags => [hasMovementFlags]
  | movementFlags2 => [hasMovementFlags2]
  | timestamp => [hasTimestamp]
  | orientation => [hasOrientation]
  | transportPositionX | transportPositionY | transportPositionZ | transportOrientation
  | transportSeat | transportTime => [hasTransportData]
  | transportTime2 => [hasTransportData, hasTransportTime2]
  | transportTime3 => [hasTransportData, hasTransportTime3]
  | pitch => [hasPitch]
  | fallTime | fallVerticalSpeed => [hasFallData]
  | fallCosAngle | fallSinAngle | fallHorizontalSpeed => [hasFallData, hasFallDirection]
  | splineElevation => [hasSplineElevation]
  | counter => [hasCounter]
  | alive => [isAlive]
  | _ => []

theorem flags_width : 1 ≤ 30 ∧ 30 ≤ 32 := by decide

theorem flags2_width : 1 ≤ 13 ∧ 13 ≤ 32 := by decide

theorem counter_width : 1 ≤ 22 ∧ 22 ≤ 32 := by decide

def shape : MovementStatusElement → Shape
  | guidByte _ | transportGuidByte _ | transportSeat => .putInt .uint8
  | movementFlags => .writeBits 30 flags_width
  | movementFlags2 => .writeBits 13 flags2_width
  | hasCounter => .writeBits 22 counter_width
  | timestamp | positionX | positionY | positionZ | orientation | transportPositionX
  | transportPositionY | transportPositionZ | transportOrientation | transportTime | transportTime2
  | transportTime3 | pitch | fallTime | fallVerticalSpeed | fallCosAngle | fallSinAngle
  | fallHorizontalSpeed | splineElevation | counter | alive => .putInt .uint32
  | _ => .writeBit

end MovementStatusElement

open MovementStatusElement

def Disciplined (sequence : List MovementStatusElement) : Prop :=
  (∀ element ∈ sequence, ∀ presence ∈ element.guards, presence ∈ sequence) ∧
    sequence.Pairwise fun element later => later ∉ element.guards

instance (sequence : List MovementStatusElement) : Decidable (Disciplined sequence) :=
  inferInstanceAs (Decidable (_ ∧ _))

theorem not_mem_own_guards (element : MovementStatusElement) : element ∉ element.guards := by
  cases element <;> simp [guards]

theorem Disciplined.seen {front rest : List MovementStatusElement} {element : MovementStatusElement}
    (disciplined : Disciplined (front ++ element :: rest)) {presence : MovementStatusElement}
    (guard : presence ∈ element.guards) : presence ∈ front := by
  have there := disciplined.1 element (mem_append_right _ mem_cons_self) presence guard
  have later := (pairwise_cons.mp (pairwise_append.mp disciplined.2).2.1).1
  rcases mem_append.mp there with seen | here
  · exact seen
  rcases mem_cons.mp here with same | after
  · rw [same] at guard
    exact absurd guard (not_mem_own_guards element)
  · exact absurd guard (later presence after)

namespace MovingUnit

variable (math : FloatMath) (u : MovingUnit)

/-- Whether the unit writes anything for an element. -/
def present : MovementStatusElement → Bool
  | .hasTransportGuidByte _ | .hasTransportTime2 | .hasTransportTime3 => u.hasTransportData
  | .guidByte i => u.guid i != 0
  | .transportGuidByte i => u.hasTransportData && u.tguid i != 0
  | .hasFallDirection | .fallTime | .fallVerticalSpeed => u.hasFallData
  | .movementFlags => u.hasMovementFlags
  | .movementFlags2 => u.hasMovementFlags2
  | .timestamp => u.hasTimestamp
  | .orientation => u.hasOrientation math
  | .transportPositionX | .transportPositionY | .transportPositionZ | .transportOrientation
  | .transportSeat | .transportTime => u.hasTransportData
  | .transportTime2 => u.hasTransportData && u.hasTransportTime2
  | .transportTime3 => u.hasTransportData && u.hasTransportTime3
  | .pitch => u.hasPitch
  | .fallCosAngle | .fallSinAngle | .fallHorizontalSpeed => u.hasFallData && u.hasFallDirection
  | .splineElevation => u.hasSplineElevation
  | .counter | .alive => false
  | _ => true

def shapes (sequence : List MovementStatusElement) : List Shape :=
  (sequence.filter (u.present math)).map shape

theorem ite_shape (present : Bool) {calls : List Call} {shape : Shape}
    (one : calls.map Call.shape = [shape]) :
    (if present then calls else []).map Call.shape = if present then [shape] else [] := by
  cases present with
  | false => rfl
  | true => exact one

theorem writeElement_shape (element : MovementStatusElement) :
    (u.writeElement math element).map Call.shape =
      if u.present math element then [element.shape] else [] := by
  cases element
  case transportGuidByte i =>
      unfold writeElement present
      cases boarded : u.hasTransportData with
      | false => rfl
      | true => exact ite_shape (u.tguid i != 0) rfl
  all_goals first | exact rfl | exact ite_shape _ rfl

theorem writeElements_shapes (sequence : List MovementStatusElement) :
    (sequence.flatMap (u.writeElement math)).map Call.shape = u.shapes math sequence := by
  induction sequence with
  | nil => rfl
  | cons element rest ih =>
    rw [flatMap_cons, map_append, ih, writeElement_shape]
    unfold shapes
    cases there : u.present math element with
    | false =>
      rw [filter_cons_of_neg (by rw [there]; decide)]
      rfl
    | true =>
      rw [filter_cons_of_pos there]
      rfl

end MovingUnit

namespace MovingUnit

variable (math : FloatMath) (u : MovingUnit)

/-- The reader's variables after it has read what the unit wrote for `e`. -/
def copy (r : ReadState) (e : MovementStatusElement) : ReadState where
  hasMovementFlags := if e = .hasMovementFlags then u.hasMovementFlags else r.hasMovementFlags
  hasMovementFlags2 := if e = .hasMovementFlags2 then u.hasMovementFlags2 else r.hasMovementFlags2
  hasTimestamp := if e = .hasTimestamp then u.hasTimestamp else r.hasTimestamp
  hasOrientation := if e = .hasOrientation then u.hasOrientation math else r.hasOrientation
  hasTransportData := if e = .hasTransportData then u.hasTransportData else r.hasTransportData
  isAlive := if e = .isAlive then true else r.isAlive
  counter := if e = .hasCounter then 0 else r.counter
  guid :=
    match e with
    | .hasGuidByte i => Function.update r.guid i (if u.guid i != 0 then 1 else 0)
    | .guidByte i => Function.update r.guid i (u.guid i)
    | _ => r.guid
  tguid :=
    match e with
    | .hasTransportGuidByte i => Function.update r.tguid i (if u.tguid i != 0 then 1 else 0)
    | .transportGuidByte i => Function.update r.tguid i (u.tguid i)
    | _ => r.tguid
  mi :=
    { guid := r.mi.guid
      flags := if e = .movementFlags then u.movementInfo.flags else r.mi.flags
      flags2 := if e = .movementFlags2 then u.movementInfo.flags2 else r.mi.flags2
      pos :=
        { positionX := if e = .positionX then u.pos.positionX else r.mi.pos.positionX
          positionY := if e = .positionY then u.pos.positionY else r.mi.pos.positionY
          positionZ := if e = .positionZ then u.pos.positionZ else r.mi.pos.positionZ
          orientation :=
            if e = .orientation then math.normalizeOrientation u.pos.orientation
            else r.mi.pos.orientation }
      time := if e = .timestamp then u.msTime else r.mi.time
      transport :=
        { guid := r.mi.transport.guid
          pos :=
            { positionX :=
                if e = .transportPositionX then u.movementInfo.transport.pos.positionX
                else r.mi.transport.pos.positionX
              positionY :=
                if e = .transportPositionY then u.movementInfo.transport.pos.positionY
                else r.mi.transport.pos.positionY
              positionZ :=
                if e = .transportPositionZ then u.movementInfo.transport.pos.positionZ
                else r.mi.transport.pos.positionZ
              orientation :=
                if e = .transportOrientation then
                  math.normalizeOrientation u.movementInfo.transport.pos.orientation
                else r.mi.transport.pos.orientation }
          seat := if e = .transportSeat then u.movementInfo.transport.seat else r.mi.transport.seat
          time := if e = .transportTime then u.movementInfo.transport.time else r.mi.transport.time
          time2 :=
            if e = .transportTime2 then u.movementInfo.transport.time2 else r.mi.transport.time2
          time3 :=
            if e = .transportTime3 then u.movementInfo.transport.time3 else r.mi.transport.time3 }
      pitch := if e = .pitch then u.movementInfo.pitch else r.mi.pitch
      jump :=
        { fallTime := if e = .fallTime then u.movementInfo.jump.fallTime else r.mi.jump.fallTime
          zspeed := if e = .fallVerticalSpeed then u.movementInfo.jump.zspeed else r.mi.jump.zspeed
          sinAngle := if e = .fallSinAngle then u.movementInfo.jump.sinAngle else r.mi.jump.sinAngle
          cosAngle := if e = .fallCosAngle then u.movementInfo.jump.cosAngle else r.mi.jump.cosAngle
          xyspeed :=
            if e = .fallHorizontalSpeed then u.movementInfo.jump.xyspeed else r.mi.jump.xyspeed }
      splineElevation :=
        if e = .splineElevation then u.movementInfo.splineElevation else r.mi.splineElevation
      bits :=
        { hasTransportTime2 :=
            if e = .hasTransportTime2 then u.hasTransportTime2 else r.mi.bits.hasTransportTime2
          hasTransportTime3 :=
            if e = .hasTransportTime3 then u.hasTransportTime3 else r.mi.bits.hasTransportTime3
          hasPitch := if e = .hasPitch then u.hasPitch else r.mi.bits.hasPitch
          hasFallData := if e = .hasFallData then u.hasFallData else r.mi.bits.hasFallData
          hasFallDirection :=
            if e = .hasFallDirection then u.hasFallDirection else r.mi.bits.hasFallDirection
          hasSplineElevation :=
            if e = .hasSplineElevation then u.hasSplineElevation
            else r.mi.bits.hasSplineElevation } }

/-- The same, for an element that may be left out. -/
def told (r : ReadState) (e : MovementStatusElement) : ReadState :=
  if u.present math e then u.copy math r e else r

/-- The information that a unit sends. -/
def info : MovementInfo :=
  { u.movementInfo with
    guid := u.guid
    pos := u.pos
    time := u.msTime
    transport.guid := u.tguid
    bits :=
      { hasTransportTime2 := u.hasTransportTime2
        hasTransportTime3 := u.hasTransportTime3
        hasPitch := u.hasPitch
        hasFallData := u.hasFallData
        hasFallDirection := u.hasFallDirection
        hasSplineElevation := u.hasSplineElevation } }

end MovingUnit

/-- What the information has where an element puts its value. -/
def MovementInfo.field (mi : MovementInfo) : MovementStatusElement → Nat
  | .guidByte i => (mi.guid i).toNat
  | .transportGuidByte i => (mi.transport.guid i).toNat
  | .hasTransportTime2 => mi.bits.hasTransportTime2.toNat
  | .hasTransportTime3 => mi.bits.hasTransportTime3.toNat
  | .hasPitch => mi.bits.hasPitch.toNat
  | .hasFallData => mi.bits.hasFallData.toNat
  | .hasFallDirection => mi.bits.hasFallDirection.toNat
  | .hasSplineElevation => mi.bits.hasSplineElevation.toNat
  | .movementFlags => mi.flags.toNat
  | .movementFlags2 => mi.flags2.toNat
  | .timestamp => mi.time.toNat
  | .positionX => mi.pos.positionX.toNat
  | .positionY => mi.pos.positionY.toNat
  | .positionZ => mi.pos.positionZ.toNat
  | .orientation => mi.pos.orientation.toNat
  | .transportPositionX => mi.transport.pos.positionX.toNat
  | .transportPositionY => mi.transport.pos.positionY.toNat
  | .transportPositionZ => mi.transport.pos.positionZ.toNat
  | .transportOrientation => mi.transport.pos.orientation.toNat
  | .transportSeat => mi.transport.seat.toNat
  | .transportTime => mi.transport.time.toNat
  | .transportTime2 => mi.transport.time2.toNat
  | .transportTime3 => mi.transport.time3.toNat
  | .pitch => mi.pitch.toNat
  | .fallTime => mi.jump.fallTime.toNat
  | .fallVerticalSpeed => mi.jump.zspeed.toNat
  | .fallCosAngle => mi.jump.cosAngle.toNat
  | .fallSinAngle => mi.jump.sinAngle.toNat
  | .fallHorizontalSpeed => mi.jump.xyspeed.toNat
  | .splineElevation => mi.splineElevation.toNat
  | _ => 0

/-- What the reader's variables have where an element puts its value. -/
def ReadState.heard (r : ReadState) : MovementStatusElement → Nat
  | .hasGuidByte i | .guidByte i => (r.guid i).toNat
  | .hasTransportGuidByte i | .transportGuidByte i => (r.tguid i).toNat
  | .hasMovementFlags => r.hasMovementFlags.toNat
  | .hasMovementFlags2 => r.hasMovementFlags2.toNat
  | .hasTimestamp => r.hasTimestamp.toNat
  | .hasOrientation => r.hasOrientation.toNat
  | .hasTransportData => r.hasTransportData.toNat
  | .hasCounter => r.counter
  | element => r.mi.field element

/-- The two elements that put their values into one byte of a guid. -/
inductive SameByte : MovementStatusElement → MovementStatusElement → Prop where
  | byte (i : Fin 8) : SameByte (.guidByte i) (.hasGuidByte i)
  | bit (i : Fin 8) : SameByte (.hasGuidByte i) (.guidByte i)
  | transportByte (i : Fin 8) : SameByte (.transportGuidByte i) (.hasTransportGuidByte i)
  | transportBit (i : Fin 8) : SameByte (.hasTransportGuidByte i) (.transportGuidByte i)

namespace MovingUnit

variable (math : FloatMath) (u : MovingUnit)

variable {element : MovementStatusElement}

theorem copy_guid_of_ne (r : ReadState) {i : Fin 8}
    (bit : element ≠ .hasGuidByte i) (byte : element ≠ .guidByte i) :
    (u.copy math r element).guid i = r.guid i := by
  cases element
  case hasGuidByte j => exact update_of_ne (fun eq => bit (congrArg _ eq.symm)) _ r.guid
  case guidByte j => exact update_of_ne (fun eq => byte (congrArg _ eq.symm)) _ r.guid
  all_goals rfl

theorem copy_tguid_of_ne (r : ReadState) {i : Fin 8}
    (bit : element ≠ .hasTransportGuidByte i) (byte : element ≠ .transportGuidByte i) :
    (u.copy math r element).tguid i = r.tguid i := by
  cases element
  case hasTransportGuidByte j =>
      exact update_of_ne (fun eq => bit (congrArg _ eq.symm)) _ r.tguid
  case transportGuidByte j =>
      exact update_of_ne (fun eq => byte (congrArg _ eq.symm)) _ r.tguid
  all_goals rfl

theorem heard_copy_of_ne (r : ReadState) {other : MovementStatusElement}
    (apart : element ≠ other) (apartByte : ¬ SameByte element other) :
    (u.copy math r element).heard other = r.heard other := by
  cases other
  case hasGuidByte i =>
      have byte : element ≠ .guidByte i := fun eq => apartByte (eq ▸ .byte i)
      exact congrArg UInt8.toNat (u.copy_guid_of_ne math r apart byte)
  case guidByte i =>
      have bit : element ≠ .hasGuidByte i := fun eq => apartByte (eq ▸ .bit i)
      exact congrArg UInt8.toNat (u.copy_guid_of_ne math r bit apart)
  case hasTransportGuidByte i =>
      have byte : element ≠ .transportGuidByte i := fun eq => apartByte (eq ▸ .transportByte i)
      exact congrArg UInt8.toNat (u.copy_tguid_of_ne math r apart byte)
  case transportGuidByte i =>
      have bit : element ≠ .hasTransportGuidByte i :=
        fun eq => apartByte (eq ▸ .transportBit i)
      exact congrArg UInt8.toNat (u.copy_tguid_of_ne math r bit apart)
  all_goals simp only [ReadState.heard, MovementInfo.field, copy, if_neg apart]

/-- What the unit says with an element. -/
def sent : MovementStatusElement → Nat
  | .hasGuidByte i => (if u.guid i != 0 then 1 else 0 : UInt8).toNat
  | .hasTransportGuidByte i => (if u.tguid i != 0 then 1 else 0 : UInt8).toNat
  | .hasMovementFlags => u.hasMovementFlags.toNat
  | .hasMovementFlags2 => u.hasMovementFlags2.toNat
  | .hasTimestamp => u.hasTimestamp.toNat
  | .hasOrientation => (u.hasOrientation math).toNat
  | .hasTransportData => u.hasTransportData.toNat
  | .orientation => (math.normalizeOrientation u.pos.orientation).toNat
  | .transportOrientation =>
    (math.normalizeOrientation u.movementInfo.transport.pos.orientation).toNat
  | element => u.info.field element

theorem heard_copy_self (r : ReadState) (element : MovementStatusElement) :
    (u.copy math r element).heard element = u.sent math element := by
  cases element
  case hasGuidByte i => exact congrArg UInt8.toNat (update_self i _ r.guid)
  case guidByte i => exact congrArg UInt8.toNat (update_self i _ r.guid)
  case hasTransportGuidByte i => exact congrArg UInt8.toNat (update_self i _ r.tguid)
  case transportGuidByte i => exact congrArg UInt8.toNat (update_self i _ r.tguid)
  all_goals rfl

end MovingUnit

theorem follows_readUInt8 (value : UInt8) : Follows readUInt8 (MovingUnit.writeUInt8 value) value :=
  follows_readInt .uint8 value.toBitVec UInt8.ofBitVec

theorem follows_readUInt32 (value : UInt32) :
    Follows readUInt32 (MovingUnit.writeUInt32 value) value :=
  follows_readInt .uint32 value.toBitVec UInt32.ofBitVec

theorem follows_readGuidBit (guid : ObjectGuid) (i : Fin 8) (bit : Bool) :
    Follows (readGuidBit guid i) (MovingUnit.writeBit bit)
      (Function.update guid i (if bit then 1 else 0)) :=
  (follows_readBit bit).map fun bit => Function.update guid i (if bit then 1 else 0)

theorem xor_flag (byte : UInt8) : 1 ^^^ (byte ^^^ 1) = byte := by
  rw [UInt8.xor_comm byte 1, ← UInt8.xor_assoc]
  simp

theorem follows_readByteSeq {guid : ObjectGuid} {i : Fin 8} {byte : UInt8}
    (known : guid i = if byte != 0 then 1 else 0) :
    Follows (readByteSeq guid i) (MovingUnit.writeByteSeq byte)
      (if byte != 0 then Function.update guid i byte else guid) := by
  refine Follows.ite ?_ fun some => ?_
  · rw [known]
    cases byte != 0 <;> rfl
  · rw [if_pos some] at known
    have read := (follows_readUInt8 (byte ^^^ 1)).map fun value =>
      Function.update guid i (guid i ^^^ value)
    rw [known, xor_flag] at read
    rw [known]
    exact read

section

variable {math : FloatMath} {u : MovingUnit} {r : ReadState}

theorem follows_hasBit (bit : Bool) (f : Bool → ReadState) :
    Follows (do return f (!(← readBit))) (MovingUnit.writeBit !bit) (f bit) := by
  have read := (follows_readBit (!bit)).map fun bit => f !bit
  rw [Bool.not_not] at read
  exact read

theorem eq_of_toNat {p q : Bool} (same : p.toNat = q.toNat) : p = q := by
  cases p <;> cases q <;> first | rfl | cases same

theorem both_eq {p q p' q' : Bool} (first : p = p') (second : p' = true → q = q') :
    (p && q) = (p' && q') := by
  subst first
  cases p with
  | false => rfl
  | true => exact second rfl

/-- The reader has heard what the unit sent for the elements that guard another one. -/
def Informed (math : FloatMath) (u : MovingUnit) (r : ReadState) (element : MovementStatusElement) :
    Prop :=
  ∀ presence ∈ element.guards, u.present math presence = true →
    r.heard presence = u.sent math presence

theorem follows_readElement (flags30 : u.movementInfo.flags.toNat < 2 ^ 30)
    (flags13 : u.movementInfo.flags2.toNat < 2 ^ 13) {element : MovementStatusElement}
    (living : element ≠ .alive) (known : Informed math u r element) :
    Follows (readElement math r element) (u.writeElement math element) (u.told math r element) := by
  have boarded (guard : .hasTransportData ∈ element.guards) :
      r.hasTransportData = u.hasTransportData := eq_of_toNat (known .hasTransportData guard rfl)
  have falls (guard : .hasFallData ∈ element.guards) :
      r.mi.bits.hasFallData = u.hasFallData := eq_of_toNat (known .hasFallData guard rfl)
  cases element
  case hasGuidByte i => exact (follows_readGuidBit r.guid i _).map _
  case hasTransportGuidByte i =>
      exact Follows.ite (boarded (by simp [guards])) fun _ =>
        (follows_readGuidBit r.tguid i _).map _
  case guidByte i =>
      have bit : r.guid i = if u.guid i != 0 then 1 else 0 :=
        UInt8.toNat_inj.mp (known (.hasGuidByte i) (by simp [guards]) rfl)
      have read := (follows_readByteSeq bit).map fun guid => ({ r with guid := guid } : ReadState)
      rw [apply_ite fun guid => ({ r with guid := guid } : ReadState)] at read
      exact read
  case transportGuidByte i =>
      have bit (boarded : u.hasTransportData = true) : r.tguid i = if u.tguid i != 0 then 1 else 0 :=
        UInt8.toNat_inj.mp (known (.hasTransportGuidByte i) (by simp [guards]) boarded)
      have told : u.told math r (.transportGuidByte i) = if u.hasTransportData then
          if u.tguid i != 0 then { r with tguid := Function.update r.tguid i (u.tguid i) } else r
          else r := by
        unfold MovingUnit.told MovingUnit.present
        cases u.hasTransportData <;> rfl
      rw [told]
      refine Follows.ite (boarded (by simp [guards])) fun boarded => ?_
      have read := (follows_readByteSeq (bit boarded)).map fun guid =>
        ({ r with tguid := guid } : ReadState)
      rw [apply_ite fun guid => ({ r with tguid := guid } : ReadState)] at read
      exact read
  case hasMovementFlags => exact follows_hasBit _ fun bit => { r with hasMovementFlags := bit }
  case hasMovementFlags2 => exact follows_hasBit _ fun bit => { r with hasMovementFlags2 := bit }
  case hasTimestamp => exact follows_hasBit _ fun bit => { r with hasTimestamp := bit }
  case hasOrientation => exact follows_hasBit _ fun bit => { r with hasOrientation := bit }
  case hasPitch => exact follows_hasBit _ fun bit => { r with mi.bits.hasPitch := bit }
  case hasSplineElevation =>
      exact follows_hasBit _ fun bit => { r with mi.bits.hasSplineElevation := bit }
  case isAlive => exact follows_hasBit true fun bit => { r with isAlive := bit }
  case hasTransportData | hasFallData | hasSpline | zeroBit | oneBit =>
      exact (follows_readBit _).map _
  case hasTransportTime2 | hasTransportTime3 =>
      exact Follows.ite (boarded (by simp [guards])) fun _ => (follows_readBit _).map _
  case hasFallDirection =>
      exact Follows.ite (falls (by simp [guards])) fun _ => (follows_readBit _).map _
  case movementFlags =>
      refine Follows.ite (eq_of_toNat (known .hasMovementFlags (by simp [guards]) rfl)) fun _ => ?_
      have read := (follows_readBits (by decide) flags30).map fun value =>
        ({ r with mi.flags := UInt32.ofNat value } : ReadState)
      rw [UInt32.ofNat_toNat] at read
      exact read
  case movementFlags2 =>
      refine Follows.ite (eq_of_toNat (known .hasMovementFlags2 (by simp [guards]) rfl)) fun _ => ?_
      have read := (follows_readBits (by decide) flags13).map fun value =>
        ({ r with mi.flags2 := UInt16.ofNat value } : ReadState)
      rw [UInt16.ofNat_toNat] at read
      exact read
  case timestamp =>
      exact Follows.ite (eq_of_toNat (known .hasTimestamp (by simp [guards]) rfl)) fun _ =>
        (follows_readUInt32 _).map _
  case positionX | positionY | positionZ => exact (follows_readUInt32 _).map _
  case orientation =>
      exact Follows.ite (eq_of_toNat (known .hasOrientation (by simp [guards]) rfl)) fun _ =>
        (follows_readUInt32 _).map _
  case transportPositionX | transportPositionY | transportPositionZ | transportOrientation
    | transportTime =>
      exact Follows.ite (boarded (by simp [guards])) fun _ => (follows_readUInt32 _).map _
  case transportSeat =>
      exact Follows.ite (boarded (by simp [guards])) fun _ => (follows_readUInt8 _).map _
  case transportTime2 =>
      have second there := eq_of_toNat (known .hasTransportTime2 (by simp [guards]) there)
      exact Follows.ite (both_eq (boarded (by simp [guards])) second) fun _ =>
        (follows_readUInt32 _).map _
  case transportTime3 =>
      have third there := eq_of_toNat (known .hasTransportTime3 (by simp [guards]) there)
      exact Follows.ite (both_eq (boarded (by simp [guards])) third) fun _ =>
        (follows_readUInt32 _).map _
  case pitch =>
      exact Follows.ite (eq_of_toNat (known .hasPitch (by simp [guards]) rfl)) fun _ =>
        (follows_readUInt32 _).map _
  case fallTime | fallVerticalSpeed =>
      exact Follows.ite (falls (by simp [guards])) fun _ => (follows_readUInt32 _).map _
  case fallCosAngle | fallSinAngle | fallHorizontalSpeed =>
      have directed there := eq_of_toNat (known .hasFallDirection (by simp [guards]) there)
      exact Follows.ite (both_eq (falls (by simp [guards])) directed) fun _ =>
        (follows_readUInt32 _).map _
  case splineElevation =>
      exact Follows.ite (eq_of_toNat (known .hasSplineElevation (by simp [guards]) rfl)) fun _ =>
        (follows_readUInt32 _).map _
  case hasCounter => exact (follows_readBits (by decide) (by decide)).map _
  case counter =>
      have none : r.counter = 0 := known .hasCounter (by simp [guards]) rfl
      have skip : readElement math r .counter = pure r := by
        unfold readElement
        rw [none]
        rfl
      rw [skip]
      exact Follows.pure r
  case alive => exact absurd rfl living

end

def BytesOnce (sequence : List MovementStatusElement) : Prop :=
  ∀ i, sequence.count (.guidByte i) ≤ 1 ∧ sequence.count (.transportGuidByte i) ≤ 1

instance (sequence : List MovementStatusElement) : Decidable (BytesOnce sequence) :=
  inferInstanceAs (Decidable (∀ _, _))

theorem not_mem_of_count {front rest : List MovementStatusElement} {element : MovementStatusElement}
    (once : (front ++ element :: rest).count element ≤ 1) : element ∉ front := by
  intro there
  have seen := count_pos_iff.mpr there
  rw [count_append, count_cons_self] at once
  omega

section

variable (math : FloatMath) (u : MovingUnit)

def MovingUnit.toldAll (r : ReadState) (sequence : List MovementStatusElement) : ReadState :=
  sequence.foldl (u.told math) r

variable {element : MovementStatusElement}

theorem heard_told (r : ReadState) {other : MovementStatusElement}
    (apartByte : ¬ SameByte element other) :
    (u.told math r element).heard other =
      if element = other ∧ u.present math other = true then u.sent math other else r.heard other := by
  unfold MovingUnit.told
  by_cases same : element = other
  · rw [same]
    by_cases there : u.present math other = true
    · rw [if_pos there, if_pos ⟨rfl, there⟩, u.heard_copy_self math r other]
    · rw [if_neg there, if_neg fun both => there both.2]
  have kept := u.heard_copy_of_ne math r same apartByte
  rw [if_neg (c := element = other ∧ _) fun both => same both.1]
  split
  · exact kept
  · rfl

theorem heard_toldAll {sequence : List MovementStatusElement}
    (apartByte : ∀ other ∈ sequence, ¬ SameByte other element) (r : ReadState) :
    (u.toldAll math r sequence).heard element =
      if element ∈ sequence ∧ u.present math element = true then u.sent math element
      else r.heard element := by
  induction sequence generalizing r with
  | nil => rw [if_neg fun both => not_mem_nil both.1]; rfl
  | cons first rest ih =>
    have step := ih (fun other there => apartByte other (mem_cons_of_mem _ there))
      (u.told math r first)
    rw [heard_told math u r (apartByte first mem_cons_self)] at step
    change (u.toldAll math (u.told math r first) rest).heard element = _
    rw [step]
    by_cases there : u.present math element = true
    · by_cases later : element ∈ rest
      · rw [if_pos ⟨later, there⟩, if_pos ⟨mem_cons_of_mem _ later, there⟩]
      · rw [if_neg fun both => later both.1]
        by_cases here : first = element
        · rw [if_pos ⟨here, there⟩, if_pos ⟨here ▸ mem_cons_self, there⟩]
        have never : element ∉ first :: rest := fun among =>
          (mem_cons.mp among).elim (fun eq => here eq.symm) later
        rw [if_neg fun both => here both.1, if_neg fun both => never both.1]
    · rw [if_neg fun both => there both.2, if_neg fun both => there both.2,
        if_neg fun both => there both.2]

theorem sameByte_of_guard {presence other : MovementStatusElement}
    (guard : presence ∈ element.guards) (same : SameByte other presence) :
    other = element ∧ ∃ i, element = .guidByte i ∨ element = .transportGuidByte i := by
  cases same with
  | byte i => cases element <;> simp_all [guards]
  | bit i => cases element <;> simp [guards] at guard
  | transportByte i => cases element <;> simp_all [guards]
  | transportBit i => cases element <;> simp [guards] at guard

variable {math u}

theorem informed_toldAll {seen rest : List MovementStatusElement}
    (disciplined : Disciplined (seen ++ element :: rest))
    (once : BytesOnce (seen ++ element :: rest)) (r : ReadState) :
    Informed math u (u.toldAll math r seen) element := by
  intro presence guard there
  have apartByte : ∀ other ∈ seen, ¬ SameByte other presence := by
    intro other among same
    obtain ⟨eq, i, byte | byte⟩ := sameByte_of_guard guard same
    · have unseen := not_mem_of_count (byte ▸ (once i).1)
      exact unseen (byte ▸ eq ▸ among)
    · have unseen := not_mem_of_count (byte ▸ (once i).2)
      exact unseen (byte ▸ eq ▸ among)
  rw [heard_toldAll math u apartByte, if_pos ⟨disciplined.seen guard, there⟩]

theorem follows_readElements (flags30 : u.movementInfo.flags.toNat < 2 ^ 30)
    (flags13 : u.movementInfo.flags2.toNat < 2 ^ 13) (r : ReadState)
    {seen sequence : List MovementStatusElement} (disciplined : Disciplined (seen ++ sequence))
    (once : BytesOnce (seen ++ sequence)) (living : .alive ∉ sequence) :
    Follows (readElements math sequence (u.toldAll math r seen))
      (sequence.flatMap (u.writeElement math)) (u.toldAll math r (seen ++ sequence)) := by
  induction sequence generalizing seen with
  | nil =>
    rw [append_nil]
    exact Follows.pure _
  | cons element rest ih =>
    have alive := ne_of_not_mem_cons living
    have informed : Informed math u (u.toldAll math r seen) element :=
      informed_toldAll disciplined once r
    have read := follows_readElement flags30 flags13 alive.symm informed
    have told : u.told math (u.toldAll math r seen) element =
        u.toldAll math r (seen ++ [element]) := by
      unfold MovingUnit.toldAll
      rw [foldl_append]
      rfl
    rw [told] at read
    rw [append_cons] at disciplined once ⊢
    exact read.bind (ih disciplined once (not_mem_of_not_mem_cons living))

end

/-- The information has what the unit sent; what was left out is as it was before. -/
structure Received (math : FloatMath) (u : MovingUnit) (sequence : List MovementStatusElement)
    (mi result : MovementInfo) : Prop where
  guid : ∀ i, .guidByte i ∈ sequence → result.guid i = u.guid i
  transportGuid : ∀ i, .transportGuidByte i ∈ sequence → result.transport.guid i = u.transGuid i
  flags : mi.flags = 0 → .movementFlags ∈ sequence → result.flags = u.movementInfo.flags
  flags2 : mi.flags2 = 0 → .movementFlags2 ∈ sequence → result.flags2 = u.movementInfo.flags2
  field : ∀ element, (∀ i, element ≠ .guidByte i ∧ element ≠ .transportGuidByte i) →
    result.field element =
      if element ∈ sequence ∧ u.present math element = true then u.info.field element
      else mi.field element

/-- Parsing what the unit wrote consumes it and gives what the unit sent. -/
def RoundTrips (math : FloatMath) (sequence : List MovementStatusElement) (u : MovingUnit)
    (mi : MovementInfo) : Prop :=
  ∃ written, (u.writeMovementInfo math sequence fresh >>= ByteBuffer.flushBits) = .ok written ∧
    ∃ result done,
      readMovementInfo math sequence mi { fresh with storage := written.storage } =
        .ok (result, done) ∧
      done.rpos = done.size ∧ Received math u sequence mi result

/-- No bit is written after a partly filled byte of bits was closed, the packet is not too long, and
nothing hangs on `isAlive`, on a guid byte written twice or on an orientation that is not normal. -/
structure Legible (math : FloatMath) (u : MovingUnit) (sequence : List MovementStatusElement) :
    Prop where
  aligned : Aligned 0 false (u.shapes math sequence)
  fits : Fits 0 (appendSizes 0 (u.shapes math sequence))
  living : .alive ∉ sequence
  once : BytesOnce sequence
  orientation : .orientation ∈ sequence → u.hasOrientation math = true →
    math.normalizeOrientation u.pos.orientation = u.pos.orientation
  transportOrientation : .transportOrientation ∈ sequence → u.hasTransportData = true →
    math.normalizeOrientation u.movementInfo.transport.pos.orientation =
      u.movementInfo.transport.pos.orientation

section

variable {math : FloatMath} {u : MovingUnit} {sequence : List MovementStatusElement}

variable {element : MovementStatusElement}

theorem local_or_field (plain : ∀ i, element ≠ .guidByte i ∧ element ≠ .transportGuidByte i) :
    (∀ mi : MovementInfo, mi.field element = 0) ∨
      (∀ r : ReadState, r.heard element = r.mi.field element) ∧
        (∀ other, ¬ SameByte other element) ∧
        ((∀ (math : FloatMath) (u : MovingUnit), u.sent math element = u.info.field element) ∨
          element = .orientation ∨ element = .transportOrientation) := by
  cases element
  case guidByte i => exact absurd rfl (plain i).1
  case transportGuidByte i => exact absurd rfl (plain i).2
  case orientation => exact .inr ⟨fun _ => rfl, fun _ same => (nomatch same), .inr (.inl rfl)⟩
  case transportOrientation =>
      exact .inr ⟨fun _ => rfl, fun _ same => (nomatch same), .inr (.inr rfl)⟩
  all_goals
    first
    | exact .inl fun _ => rfl
    | exact .inr ⟨fun _ => rfl, fun _ same => (nomatch same), .inl fun _ _ => rfl⟩

theorem field_toldAll (legible : Legible math u sequence) (mi : MovementInfo)
    (plain : ∀ i, element ≠ .guidByte i ∧ element ≠ .transportGuidByte i) :
    (u.toldAll math (.initial mi) sequence).mi.field element =
      if element ∈ sequence ∧ u.present math element = true then u.info.field element
      else mi.field element := by
  rcases local_or_field plain with unused | ⟨heard, apartByte, sent⟩
  · rw [unused, unused, unused, ite_self]
  rw [← heard, heard_toldAll math u (fun other _ => apartByte other), heard]
  by_cases there : element ∈ sequence ∧ u.present math element = true
  · rw [if_pos there, if_pos there]
    rcases sent with same | rfl | rfl
    · exact same math u
    · exact congrArg UInt32.toNat (legible.orientation there.1 there.2)
    · exact congrArg UInt32.toNat (legible.transportOrientation there.1 there.2)
  · rw [if_neg there, if_neg there]
    rfl

theorem heard_last {seen rest : List MovementStatusElement}
    (disciplined : Disciplined (seen ++ element :: rest))
    (guarded : ∀ other, SameByte other element → other ∈ element.guards) (r : ReadState) :
    (u.toldAll math r (seen ++ element :: rest)).heard element =
      if u.present math element = true then u.sent math element
      else (u.toldAll math r seen).heard element := by
  have split : u.toldAll math r (seen ++ element :: rest) =
      u.toldAll math (u.toldAll math r seen) (element :: rest) := foldl_append ..
  have after := pairwise_cons.mp (pairwise_append.mp disciplined.2).2.1
  have apartByte : ∀ other ∈ element :: rest, ¬ SameByte other element := by
    intro other there same
    rcases mem_cons.mp there with rfl | later
    · exact not_mem_own_guards other (guarded other same)
    · exact after.1 other later (guarded other same)
  rw [split, heard_toldAll math u apartByte]
  simp only [mem_cons_self, true_and]

theorem guid_toldAll (disciplined : Disciplined sequence) (once : BytesOnce sequence)
    (mi : MovementInfo) {i : Fin 8} (there : .guidByte i ∈ sequence) :
    (u.toldAll math (.initial mi) sequence).guid i = u.guid i := by
  obtain ⟨seen, rest, rfl⟩ := append_of_mem there
  have known : Informed math u (u.toldAll math (.initial mi) seen) (.guidByte i) :=
    informed_toldAll disciplined once _
  have bit := known (.hasGuidByte i) mem_cons_self rfl
  have guarded : ∀ other, SameByte other (.guidByte i) → other ∈ (guidByte i).guards := by
    rintro other ⟨⟩
    exact mem_cons_self
  apply UInt8.toNat_inj.mp
  refine (heard_last disciplined guarded (.initial mi)).trans ?_
  split
  · rfl
  rename_i absent
  have zero : u.guid i = 0 := by simpa [MovingUnit.present] using absent
  have silent : (u.toldAll math (.initial mi) seen).heard (.guidByte i) = 0 :=
    bit.trans (by simp [MovingUnit.sent, zero])
  rw [silent, zero]
  rfl

theorem tguid_told_ashore (ashore : u.hasTransportData = false) (r : ReadState)
    (element : MovementStatusElement) : (u.told math r element).tguid = r.tguid := by
  unfold MovingUnit.told
  split
  · rename_i present
    cases element
    case hasTransportGuidByte i => exact absurd (ashore.symm.trans present) (by decide)
    case transportGuidByte i =>
        have boarded := (Bool.and_eq_true_iff.mp present).1
        exact absurd (ashore.symm.trans boarded) (by decide)
    all_goals rfl
  · rfl

theorem tguid_toldAll_ashore (ashore : u.hasTransportData = false)
    (elements : List MovementStatusElement) (r : ReadState) :
    (u.toldAll math r elements).tguid = r.tguid := by
  induction elements generalizing r with
  | nil => rfl
  | cons element rest ih => exact (ih _).trans (tguid_told_ashore ashore r element)

theorem transportGuid_toldAll (disciplined : Disciplined sequence) (once : BytesOnce sequence)
    (mi : MovementInfo) {i : Fin 8} (there : .transportGuidByte i ∈ sequence) :
    (u.toldAll math (.initial mi) sequence).tguid i = u.transGuid i := by
  cases boarded : u.hasTransportData with
  | false =>
    have none := of_decide_eq_false boarded
    have zero : u.transGuid i = 0 := not_not.mp fun some => none ⟨i, some⟩
    rw [tguid_toldAll_ashore boarded, zero]
    rfl
  | true =>
    have tguid : u.tguid = u.transGuid := if_pos boarded
    obtain ⟨seen, rest, rfl⟩ := append_of_mem there
    have known : Informed math u (u.toldAll math (.initial mi) seen) (.transportGuidByte i) :=
      informed_toldAll disciplined once _
    have bit := known (.hasTransportGuidByte i) (by simp [guards]) boarded
    have guarded : ∀ other, SameByte other (.transportGuidByte i) →
        other ∈ (transportGuidByte i).guards := by
      rintro other ⟨⟩
      simp [guards]
    apply UInt8.toNat_inj.mp
    refine (heard_last disciplined guarded (.initial mi)).trans ?_
    split
    · rw [← tguid]
      rfl
    rename_i absent
    have zero : u.transGuid i = 0 := by
      rw [← tguid]
      simpa [MovingUnit.present, boarded] using absent
    have silent : (u.toldAll math (.initial mi) seen).heard (.transportGuidByte i) = 0 :=
      bit.trans (by simp [MovingUnit.sent, tguid, zero])
    rw [silent, zero]
    rfl

theorem received_toldAll (disciplined : Disciplined sequence) (legible : Legible math u sequence)
    (mi : MovementInfo) :
    Received math u sequence mi
      { (u.toldAll math (.initial mi) sequence).mi with
        guid := (u.toldAll math (.initial mi) sequence).guid
        transport.guid := (u.toldAll math (.initial mi) sequence).tguid } := by
  have field : ∀ element, (∀ i, element ≠ .guidByte i ∧ element ≠ .transportGuidByte i) →
      ({ (u.toldAll math (.initial mi) sequence).mi with
        guid := (u.toldAll math (.initial mi) sequence).guid
        transport.guid := (u.toldAll math (.initial mi) sequence).tguid } :
          MovementInfo).field element =
        if element ∈ sequence ∧ u.present math element = true then u.info.field element
        else mi.field element := by
    intro element plain
    rw [← field_toldAll legible mi plain]
    cases element
    case guidByte i => exact absurd rfl (plain i).1
    case transportGuidByte i => exact absurd rfl (plain i).2
    all_goals rfl
  refine ⟨?_, ?_, ?_, ?_, field⟩
  · exact fun i there => guid_toldAll disciplined legible.once mi there
  · exact fun i there => transportGuid_toldAll disciplined legible.once mi there
  · intro fresh there
    apply UInt32.toNat_inj.mp
    refine (field .movementFlags (by simp)).trans ?_
    by_cases zero : u.movementInfo.flags = 0
    · rw [if_neg fun both => by simp [MovingUnit.present, MovingUnit.hasMovementFlags, zero] at both,
        zero]
      exact congrArg UInt32.toNat fresh
    · rw [if_pos ⟨there, bne_iff_ne.mpr zero⟩]
      rfl
  · intro fresh there
    apply UInt16.toNat_inj.mp
    refine (field .movementFlags2 (by simp)).trans ?_
    by_cases zero : u.movementInfo.flags2 = 0
    · rw [if_neg fun both => by simp [MovingUnit.present, MovingUnit.hasMovementFlags2, zero] at both,
        zero]
      exact congrArg UInt16.toNat fresh
    · rw [if_pos ⟨there, bne_iff_ne.mpr zero⟩]
      rfl

end

/-- Floats are zero by their bits, and every orientation is normal. -/
def FloatMath.plain : FloatMath := ⟨(· == 0), id⟩

def MovingUnit.still (guid : ObjectGuid) : MovingUnit :=
  ⟨false, guid, fun _ => 0, ⟨1, 2, 3, 0⟩, .initial 0, false, 7⟩

end OpenWoW.Movement
