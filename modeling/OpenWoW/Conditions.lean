import OpenWoW.Lib.Grouping
import OpenWoW.Quests

/-! The condition system, and the types of objects a search has to look at. -/
namespace OpenWoW.Conditions

open Quests (QuestStatus)

inductive ConditionType where
  | none | aura | item | itemEquipped | zoneId | reputationRank | team | skill | questRewarded
  | questTaken | drunkenState | worldState | activeEvent | instanceInfo | questNone | unitClass
  | race | achievement | title | spawnMask | gender | unitState | mapId | areaId | unused24 | spell
  | phaseMask | level | questComplete | nearCreature | nearGameObject | objectEntry | typeMask
  | relationTo | reactionTo | distanceTo | alive | hpVal | hpPct
  deriving DecidableEq, Repr

inductive ConditionSourceType where
  | none | creatureLootTemplate | disenchantLootTemplate | fishingLootTemplate
  | gameObjectLootTemplate | itemLootTemplate | mailLootTemplate | millingLootTemplate
  | pickpocketingLootTemplate | prospectingLootTemplate | referenceLootTemplate
  | skinningLootTemplate | spellLootTemplate | spellImplicitTarget | gossipMenu | gossipMenuOption
  | creatureTemplateVehicle | spell | spellClickEvent | questAccept | questShowMark | vehicleSpell
  | smartEvent | npcVendor | spellProc | phaseDefinition
  deriving DecidableEq, Repr

inductive ObjectType where
  | unit | player | gameObject | dynamicObject | corpse | areaTrigger
  deriving DecidableEq, Repr

abbrev typeMaskObject : UInt16 := 0x0001
abbrev typeMaskUnit : UInt16 := 0x0008
abbrev typeMaskPlayer : UInt16 := 0x0010
abbrev typeMaskGameObject : UInt16 := 0x0020
abbrev typeMaskDynamicObject : UInt16 := 0x0040
abbrev typeMaskCorpse : UInt16 := 0x0080
abbrev typeMaskAreaTrigger : UInt16 := 0x0100

abbrev gridMapTypeMaskCorpse : UInt32 := 0x01
abbrev gridMapTypeMaskCreature : UInt32 := 0x02
abbrev gridMapTypeMaskDynamicObject : UInt32 := 0x04
abbrev gridMapTypeMaskGameObject : UInt32 := 0x08
abbrev gridMapTypeMaskPlayer : UInt32 := 0x10
abbrev gridMapTypeMaskAreaTrigger : UInt32 := 0x20
abbrev gridMapTypeMaskAll : UInt32 := 0x3F

namespace ObjectType

/-- `GetTypeId`. -/
def typeId : ObjectType → UInt32
  | unit => 3
  | player => 4
  | gameObject => 5
  | dynamicObject => 6
  | corpse => 7
  | areaTrigger => 8

/-- `m_objectType`. -/
def objectType : ObjectType → UInt16
  | unit => typeMaskObject ||| typeMaskUnit
  | player => typeMaskObject ||| typeMaskUnit ||| typeMaskPlayer
  | gameObject => typeMaskObject ||| typeMaskGameObject
  | dynamicObject => typeMaskObject ||| typeMaskDynamicObject
  | corpse => typeMaskObject ||| typeMaskCorpse
  | areaTrigger => typeMaskObject ||| typeMaskAreaTrigger

def isType (t : ObjectType) (mask : UInt16) : Bool := mask &&& t.objectType != 0

def gridMapTypeMask : ObjectType → UInt32
  | unit => gridMapTypeMaskCreature
  | player => gridMapTypeMaskPlayer
  | gameObject => gridMapTypeMaskGameObject
  | dynamicObject => gridMapTypeMaskDynamicObject
  | corpse => gridMapTypeMaskCorpse
  | areaTrigger => gridMapTypeMaskAreaTrigger

def within (t : ObjectType) (mask : UInt32) : Bool := mask &&& t.gridMapTypeMask != 0

end ObjectType

structure Condition where
  sourceType : ConditionSourceType
  elseGroup : Nat
  conditionType : ConditionType
  conditionValue1 : UInt32
  conditionValue2 : UInt32
  conditionValue3 : UInt32
  referenceId : Nat
  scriptId : Nat
  conditionTarget : Nat
  negativeCondition : Bool
  deriving DecidableEq, Repr

/-- `mConditionTargets` of a `ConditionSourceInfo`. -/
abbrev ConditionSourceInfo (ι : Type) := Nat → Option ι

def ConditionSourceInfo.of {ι : Type} (target0 target1 : Option ι) : ConditionSourceInfo ι
  | 0 => target0
  | 1 => target1
  | _ => none

structure InstanceScript where
  getData : UInt32 → UInt32
  getData64 : UInt32 → UInt64
  getBossState : UInt32 → UInt32

/-- What conditions ask of the objects of a world, and what the tables of the server hold. -/
structure World (ι : Type) where
  objectType : ι → ObjectType
  entry : ι → UInt32
  zoneId : ι → UInt32
  areaId : ι → UInt32
  mapId : ι → UInt32
  phaseMask : ι → UInt32
  spawnMode : ι → UInt32
  /-- The script of the object's map when that is a dungeon with a script. -/
  instanceScript : ι → Option InstanceScript
  distance : ι → ι → Rat
  closestCreature : ι → UInt32 → Rat → Option ι
  closestGameObject : ι → UInt32 → Rat → Option ι
  /- Units. -/
  hasAuraEffect : ι → UInt32 → UInt32 → Bool
  unitClass : ι → UInt32
  unitRace : ι → UInt32
  level : ι → UInt8
  isAlive : ι → Bool
  health : ι → UInt32
  healthPct : ι → Rat
  unitState : ι → UInt32
  guid : ι → UInt64
  ownerGUID : ι → UInt64
  creatorGUID : ι → UInt64
  isInPartyWith : ι → ι → Bool
  isInRaidWith : ι → ι → Bool
  isOnVehicle : ι → ι → Bool
  reactionTo : ι → ι → UInt32
  /- Players. -/
  hasItemCount : ι → UInt32 → UInt32 → Bool → Bool
  hasItemOrGemWithIdEquipped : ι → UInt32 → Bool
  reputationRank : ι → UInt32 → UInt32
  hasAchieved : ι → UInt32 → Bool
  team : ι → UInt32
  gender : ι → UInt32
  hasSkill : ι → UInt32 → Bool
  baseSkillValue : ι → UInt32 → UInt32
  questRewardStatus : ι → UInt32 → Bool
  questStatus : ι → UInt32 → QuestStatus
  hasSpell : ι → UInt32 → Bool
  drunkenState : ι → UInt32
  hasTitle : ι → UInt32 → Bool
  /- The server. -/
  isActiveEvent : UInt32 → Bool
  worldState : UInt32 → UInt32
  onConditionCheck : Condition → ConditionSourceInfo ι → Bool
  /-- `static_cast<float>` of a `uint32`. -/
  float : UInt32 → Rat
  spellInfo : UInt32 → Bool
  itemTemplate : UInt32 → Bool
  /-- The field `zone` of an area. -/
  areaEntry : UInt32 → Option UInt32
  faction : UInt32 → Bool
  skillLine : UInt32 → Bool
  configMaxSkillValue : UInt32
  questTemplate : UInt32 → Bool
  gameEvent : UInt32 → Bool
  achievementEntry : UInt32 → Bool
  mapEntry : UInt32 → Bool
  creatureTemplate : UInt32 → Bool
  gameObjectTemplate : UInt32 → Bool
  titleEntry : UInt32 → Bool

abbrev compTypeMax : UInt32 := 5

/-- `CompareValues`; another type is an assertion that fails. -/
def compareValues {β : Type} [LT β] [LE β] [DecidableEq β] [DecidableLT β] [DecidableLE β]
    (type : UInt32) (val1 val2 : β) : Option Bool :=
  match type with
  | 0 => some (val1 == val2)
  | 1 => some (val2 < val1)
  | 2 => some (val1 < val2)
  | 3 => some (val2 ≤ val1)
  | 4 => some (val1 ≤ val2)
  | _ => none

namespace World

variable {ι : Type} [DecidableEq ι] (w : World ι)

def toUnit (object : ι) : Option ι :=
  if (w.objectType object).isType typeMaskUnit then some object else none

def toPlayer (object : ι) : Option ι := if w.objectType object = .player then some object else none

def getClassMask (unit : ι) : UInt32 := 1 <<< (w.unitClass unit - 1)

def getRaceMask (unit : ι) : UInt32 := 1 <<< (w.unitRace unit - 1)

def ofUnit (object : ι) (test : ι → Option Bool) : Option Bool :=
  match w.toUnit object with
  | some unit => test unit
  | none => some false

def ofPlayer (object : ι) (test : ι → Option Bool) : Option Bool :=
  match w.toPlayer object with
  | some player => test player
  | none => some false

/-- The cases of `RELATION_TO`. -/
def relation (type : UInt32) (unit toUnit : ι) : Bool :=
  match type with
  | 0 => unit == toUnit
  | 1 => w.isInPartyWith unit toUnit
  | 2 => w.isInRaidWith unit toUnit
  | 3 => w.ownerGUID unit == w.guid toUnit
  | 4 => w.isOnVehicle unit toUnit
  | 5 => w.creatorGUID unit == w.guid toUnit
  | _ => false

/-- The cases of `INSTANCE_INFO`. -/
def instanceInfo (script : InstanceScript) (type entry data : UInt32) : Bool :=
  match type with
  | 0 => script.getData entry == data
  | 1 => script.getData64 entry == data.toUInt64
  | 2 => script.getBossState entry == data
  | _ => false

/-- The switch of `Condition::Meets`; an assertion that fails gives nothing. -/
def condMeets (cond : Condition) (sourceInfo : ConditionSourceInfo ι) (object : ι) :
    Option Bool :=
  match cond.conditionType with
  | .none => some true
  | .aura => w.ofUnit object fun unit =>
    some (w.hasAuraEffect unit cond.conditionValue1 cond.conditionValue2)
  | .item => w.ofPlayer object fun player =>
    if cond.conditionValue2 = 0 then none
    else some (w.hasItemCount player cond.conditionValue1 cond.conditionValue2
      (cond.conditionValue3 != 0))
  | .itemEquipped => w.ofPlayer object fun player =>
    some (w.hasItemOrGemWithIdEquipped player cond.conditionValue1)
  | .zoneId => some (w.zoneId object == cond.conditionValue1)
  | .reputationRank => w.ofPlayer object fun player =>
    some (w.faction cond.conditionValue1 &&
      cond.conditionValue2 &&& (1 <<< w.reputationRank player cond.conditionValue1) != 0)
  | .achievement => w.ofPlayer object fun player =>
    some (w.hasAchieved player cond.conditionValue1)
  | .team => w.ofPlayer object fun player => some (w.team player == cond.conditionValue1)
  | .unitClass => w.ofUnit object fun unit =>
    some (w.getClassMask unit &&& cond.conditionValue1 != 0)
  | .race => w.ofUnit object fun unit =>
    some (w.getRaceMask unit &&& cond.conditionValue1 != 0)
  | .gender => w.ofPlayer object fun player => some (w.gender player == cond.conditionValue1)
  | .skill => w.ofPlayer object fun player =>
    some (w.hasSkill player cond.conditionValue1 &&
      cond.conditionValue2 ≤ w.baseSkillValue player cond.conditionValue1)
  | .questRewarded => w.ofPlayer object fun player =>
    some (w.questRewardStatus player cond.conditionValue1)
  | .questTaken => w.ofPlayer object fun player =>
    some (w.questStatus player cond.conditionValue1 == .incomplete)
  | .questComplete => w.ofPlayer object fun player =>
    some (w.questStatus player cond.conditionValue1 == .complete &&
      !w.questRewardStatus player cond.conditionValue1)
  | .questNone => w.ofPlayer object fun player =>
    some (w.questStatus player cond.conditionValue1 == .none_)
  | .activeEvent => some (w.isActiveEvent cond.conditionValue1)
  | .instanceInfo => some ((w.instanceScript object).any fun script =>
    instanceInfo script cond.conditionValue3 cond.conditionValue1 cond.conditionValue2)
  | .mapId => some (w.mapId object == cond.conditionValue1)
  | .areaId => some (w.areaId object == cond.conditionValue1)
  | .spell => w.ofPlayer object fun player => some (w.hasSpell player cond.conditionValue1)
  | .level => w.ofUnit object fun unit =>
    compareValues cond.conditionValue2 (w.level unit).toUInt32 cond.conditionValue1
  | .drunkenState => w.ofPlayer object fun player =>
    some (cond.conditionValue1 ≤ w.drunkenState player)
  | .nearCreature => some (w.closestCreature object cond.conditionValue1
      (w.float cond.conditionValue2)).isSome
  | .nearGameObject => some (w.closestGameObject object cond.conditionValue1
      (w.float cond.conditionValue2)).isSome
  | .objectEntry => some ((w.objectType object).typeId == cond.conditionValue1 &&
      (cond.conditionValue2 == 0 || w.entry object == cond.conditionValue2))
  | .typeMask => some ((w.objectType object).isType cond.conditionValue1.toUInt16)
  | .relationTo =>
    match (sourceInfo cond.conditionValue1.toNat).bind w.toUnit, w.toUnit object with
    | some toUnit, some unit => some (w.relation cond.conditionValue2 unit toUnit)
    | _, _ => some false
  | .reactionTo =>
    match (sourceInfo cond.conditionValue1.toNat).bind w.toUnit, w.toUnit object with
    | some toUnit, some unit =>
      some ((1 <<< w.reactionTo unit toUnit) &&& cond.conditionValue2 != 0)
    | _, _ => some false
  | .distanceTo =>
    match sourceInfo cond.conditionValue1.toNat with
    | some toObject => compareValues cond.conditionValue3 (w.distance object toObject)
        (w.float cond.conditionValue2)
    | none => some false
  | .alive => w.ofUnit object fun unit => some (w.isAlive unit)
  | .hpVal => w.ofUnit object fun unit =>
    compareValues cond.conditionValue2 (w.health unit) cond.conditionValue1
  | .hpPct => w.ofUnit object fun unit =>
    compareValues cond.conditionValue2 (w.healthPct unit) (w.float cond.conditionValue1)
  | .worldState => some (cond.conditionValue2 == w.worldState cond.conditionValue1)
  | .phaseMask => some (w.phaseMask object &&& cond.conditionValue1 != 0)
  | .title => w.ofPlayer object fun player => some (w.hasTitle player cond.conditionValue1)
  | .spawnMask => some ((1 <<< w.spawnMode object) &&& cond.conditionValue1 != 0)
  | .unitState => w.ofUnit object fun unit =>
    some (w.unitState unit &&& cond.conditionValue1 != 0)
  | .unused24 => some false

def meets (cond : Condition) (sourceInfo : ConditionSourceInfo ι) : Option Bool :=
  if 3 ≤ cond.conditionTarget then none
  else match sourceInfo cond.conditionTarget with
  | none => some false
  | some object => (w.condMeets cond sourceInfo object).map fun condMeets =>
    (if cond.negativeCondition then !condMeets else condMeets) && w.onConditionCheck cond sourceInfo

end World

namespace Condition

variable (cond : Condition)

def isLoaded : Bool := cond.conditionType != .none || cond.referenceId != 0

/-- The masks of `CONDITION_OBJECT_ENTRY`. -/
def objectEntryMask (typeId : UInt32) : UInt32 :=
  match typeId with
  | 3 => gridMapTypeMaskCreature
  | 4 => gridMapTypeMaskPlayer
  | 5 => gridMapTypeMaskGameObject
  | 7 => gridMapTypeMaskCorpse
  | 8 => gridMapTypeMaskAreaTrigger
  | _ => 0

/-- What one bit of `CONDITION_TYPE_MASK` adds. -/
def addType (value mask : UInt32) (type : UInt16) (added : UInt32) : UInt32 :=
  if value &&& type.toUInt32 != 0 then mask ||| added else mask

def getSearcherTypeMaskForCondition : Option UInt32 :=
  if cond.negativeCondition then some gridMapTypeMaskAll
  else match cond.conditionType with
  | .none | .zoneId | .activeEvent | .instanceInfo | .mapId | .areaId | .nearCreature
  | .nearGameObject | .distanceTo | .worldState | .phaseMask | .spawnMask =>
    some gridMapTypeMaskAll
  | .aura | .unitClass | .race | .level | .relationTo | .reactionTo | .alive | .hpVal | .hpPct
  | .unitState => some (gridMapTypeMaskCreature ||| gridMapTypeMaskPlayer)
  | .item | .itemEquipped | .reputationRank | .achievement | .team | .skill | .questRewarded
  | .questTaken | .questComplete | .questNone | .spell | .drunkenState | .title | .gender =>
    some gridMapTypeMaskPlayer
  | .objectEntry => some (objectEntryMask cond.conditionValue1)
  | .typeMask =>
    let value := cond.conditionValue1
    let mask := addType value 0 typeMaskUnit (gridMapTypeMaskCreature ||| gridMapTypeMaskPlayer)
    let mask := addType value mask typeMaskPlayer gridMapTypeMaskPlayer
    let mask := addType value mask typeMaskGameObject gridMapTypeMaskGameObject
    let mask := addType value mask typeMaskCorpse gridMapTypeMaskCorpse
    some (addType value mask typeMaskAreaTrigger gridMapTypeMaskAreaTrigger)
  | .unused24 => none

def getMaxAvailableConditionTargets : Nat :=
  match cond.sourceType with
  | .spell | .spellImplicitTarget | .creatureTemplateVehicle | .vehicleSpell | .spellClickEvent
  | .gossipMenu | .gossipMenuOption | .smartEvent | .npcVendor | .spellProc => 2
  | _ => 1

end Condition

abbrev alliance : UInt32 := 469
abbrev horde : UInt32 := 67
abbrev drunkenSmashed : UInt32 := 3
abbrev genderFemale : UInt8 := 1
abbrev relationMax : UInt32 := 6
abbrev spawnMaskRaidAll : UInt32 := 15

/-- The playable classes without the monk. -/
abbrev classMaskOthers : UInt32 := 0x5FF
abbrev classMaskMonk : UInt32 := 0x200

/-- The playable races without the pandaren. -/
abbrev raceMaskOthers : UInt32 := 0x2007FF
abbrev raceMaskPandaren : UInt32 := 0x3800000

/-- The tests of `ConditionMgr::isConditionTypeValid`. -/
def World.isConditionTypeValid {ι : Type} (w : World ι) (cond : Condition) : Bool :=
  if cond.conditionType = .none then false
  else if cond.getMaxAvailableConditionTargets ≤ cond.conditionTarget then false
  else match cond.conditionType with
  | .aura => w.spellInfo cond.conditionValue1 && cond.conditionValue2 ≤ 2
  | .item => w.itemTemplate cond.conditionValue1 && cond.conditionValue2 != 0
  | .itemEquipped => w.itemTemplate cond.conditionValue1
  | .zoneId => w.areaEntry cond.conditionValue1 == some 0
  | .reputationRank => w.faction cond.conditionValue1
  | .team => cond.conditionValue1 == alliance || cond.conditionValue1 == horde
  | .skill => w.skillLine cond.conditionValue1 &&
      !(cond.conditionValue2 < 1 || w.configMaxSkillValue < cond.conditionValue2)
  | .questRewarded | .questTaken | .questNone | .questComplete =>
    w.questTemplate cond.conditionValue1
  | .activeEvent => w.gameEvent cond.conditionValue1
  | .achievement => w.achievementEntry cond.conditionValue1
  -- the last terms of the two macros stand outside their parentheses
  | .unitClass => cond.conditionValue1 &&& classMaskOthers ||| classMaskMonk != 0
  | .race => cond.conditionValue1 &&& raceMaskOthers ||| raceMaskPandaren != 0
  | .gender => cond.conditionValue1.toUInt8 ≤ genderFemale
  | .mapId => w.mapEntry cond.conditionValue1
  | .spell => w.spellInfo cond.conditionValue1
  | .level => cond.conditionValue2 < compTypeMax
  | .drunkenState => cond.conditionValue1 ≤ drunkenSmashed && cond.conditionValue2 == 0
  | .nearCreature => w.creatureTemplate cond.conditionValue1
  | .nearGameObject => w.gameObjectTemplate cond.conditionValue1
  | .objectEntry =>
    match cond.conditionValue1 with
    | 3 => cond.conditionValue2 == 0 || w.creatureTemplate cond.conditionValue2
    | 5 => cond.conditionValue2 == 0 || w.gameObjectTemplate cond.conditionValue2
    | 4 | 7 => true
    | _ => false
  | .typeMask => cond.conditionValue1 != 0 && cond.conditionValue1 &&&
      ~~~(typeMaskUnit ||| typeMaskPlayer ||| typeMaskGameObject ||| typeMaskCorpse).toUInt32 == 0
  | .relationTo => cond.conditionValue1.toNat < cond.getMaxAvailableConditionTargets &&
      cond.conditionValue1.toNat != cond.conditionTarget && cond.conditionValue2 < relationMax
  | .reactionTo => cond.conditionValue1.toNat < cond.getMaxAvailableConditionTargets &&
      cond.conditionValue1.toNat != cond.conditionTarget && cond.conditionValue2 != 0
  | .distanceTo => cond.conditionValue1.toNat < cond.getMaxAvailableConditionTargets &&
      cond.conditionValue1.toNat != cond.conditionTarget && cond.conditionValue3 < compTypeMax
  | .hpVal => cond.conditionValue2 < compTypeMax
  | .hpPct => cond.conditionValue1 ≤ 100 && cond.conditionValue2 < compTypeMax
  | .worldState => w.worldState cond.conditionValue1 != 0
  | .title => w.titleEntry cond.conditionValue1
  | .spawnMask => cond.conditionValue1 ≤ spawnMaskRaidAll
  | .unused24 => false
  | .alive | .areaId | .instanceInfo | .phaseMask | .unitState | .none => true

/-- `ConditionReferenceStore`. -/
abbrev References := Nat → Option (List Condition)

open Grouping

def typeMasks : Meet UInt32 where
  widest := gridMapTypeMaskAll
  meet := (· &&& ·)
  isEmpty := (· == 0)

def verdicts : Meet Bool where
  widest := true
  meet := and
  isEmpty := not

/-- `ConditionMgr::GetSearcherTypeMaskForConditionList`, with references followed to a depth; a
condition that is not loaded and a reference to nothing are assertions that fail. -/
def getSearcherTypeMaskForConditionList (references : References) :
    Nat → List Condition → Option UInt32
  | 0, _ => none
  | depth + 1, conditions =>
    if conditions.isEmpty then some gridMapTypeMaskAll
    else
      (conditions.foldlM (fun elseGroupStore cond =>
        if !cond.isLoaded then none
        else narrow typeMasks elseGroupStore cond.elseGroup
          (if cond.referenceId ≠ 0 then
            (references cond.referenceId).bind
              (getSearcherTypeMaskForConditionList references depth)
          else cond.getSearcherTypeMaskForCondition)) []).map
      fun elseGroupStore => elseGroupStore.foldl (fun mask entry => mask ||| entry.2) 0

namespace World

variable {ι : Type} [DecidableEq ι] (w : World ι)

/-- `ConditionMgr::IsObjectMeetToConditionList`, with references followed to a depth. -/
def isObjectMeetToConditionList (references : References) (sourceInfo : ConditionSourceInfo ι) :
    Nat → List Condition → Option Bool
  | 0, _ => none
  | depth + 1, conditions =>
    (conditions.foldlM (fun elseGroupStore (cond : Condition) =>
      if cond.isLoaded then
        narrow verdicts elseGroupStore cond.elseGroup
          (if cond.referenceId ≠ 0 then
            (references cond.referenceId).elim (some true)
              (isObjectMeetToConditionList references sourceInfo depth)
          else w.meets cond sourceInfo)
      else some elseGroupStore) []).map
    fun elseGroupStore => elseGroupStore.any fun entry => entry.2

def isObjectMeetToConditions (references : References) (sourceInfo : ConditionSourceInfo ι)
    (depth : Nat) (conditions : List Condition) : Option Bool :=
  if conditions.isEmpty then some true
  else w.isObjectMeetToConditionList references sourceInfo depth conditions

end World

end OpenWoW.Conditions
