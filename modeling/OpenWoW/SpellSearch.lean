import OpenWoW.ConditionMask

/-! The searches for the targets of a spell in an area. -/
namespace OpenWoW.Spells

open Conditions

inductive SpellTargetObjectType where
  | none | src | dest | unit | unitAndDest | gobj | gobjItem | item | corpse | corpseEnemy
  | corpseAlly
  deriving DecidableEq, Repr

inductive SpellTargetCheckType where
  | default | entry | enemy | ally | party | raid | raidClass | passenger
  deriving DecidableEq, Repr

abbrev spellAttr2CanTargetDead : UInt32 := 0x00000001
abbrev spellAttr3OnlyTargetPlayers : UInt32 := 0x00000100
abbrev spellAttr3OnlyTargetGhosts : UInt32 := 0x00001000

structure SpellInfo where
  attributesEx2 : UInt32
  attributesEx3 : UInt32

def SpellInfo.typeMask (spellInfo : SpellInfo) (objType : SpellTargetObjectType) : UInt32 :=
  let retMask := gridMapTypeMaskAll
  let retMask := match objType with
    | .unit | .unitAndDest | .corpse | .corpseEnemy | .corpseAlly =>
      retMask &&& (gridMapTypeMaskPlayer ||| gridMapTypeMaskCorpse ||| gridMapTypeMaskCreature)
    | .gobj | .gobjItem => retMask &&& gridMapTypeMaskGameObject
    | _ => retMask
  let retMask := if spellInfo.attributesEx2 &&& spellAttr2CanTargetDead == 0 then
      retMask &&& ~~~gridMapTypeMaskCorpse else retMask
  let retMask := if spellInfo.attributesEx3 &&& spellAttr3OnlyTargetPlayers != 0 then
      retMask &&& (gridMapTypeMaskCorpse ||| gridMapTypeMaskPlayer) else retMask
  if spellInfo.attributesEx3 &&& spellAttr3OnlyTargetGhosts != 0 then
    retMask &&& gridMapTypeMaskPlayer else retMask

def getSearcherTypeMask (references : References) (depth : Nat) (spellInfo : SpellInfo)
    (objType : SpellTargetObjectType) (condList : Option (List Condition)) : Option UInt32 :=
  match condList with
  | some conditions =>
    (getSearcherTypeMaskForConditionList references depth conditions).map
      (spellInfo.typeMask objType &&& ·)
  | none => some (spellInfo.typeMask objType)

/-- `WorldObjectSpellAreaTargetCheck`, with what it asks of the caster, the spell and the map. -/
structure TargetCheck (ι : Type) where
  caster : ι
  referer : ι
  targetSelectionType : SpellTargetCheckType
  condList : Option (List Condition)
  inRange : ι → Bool
  checkTarget : ι → Bool
  /-- The player in the world who owns a corpse. -/
  findOwner : ι → Option ι
  isTotem : ι → Bool
  isValidAttackTarget : ι → Bool
  isValidAssistTarget : ι → Bool

section

variable {ι : Type} [DecidableEq ι] (w : World ι)

namespace TargetCheck

variable (check : TargetCheck ι)

/-- The test of `TARGET_CHECK_RAID`. -/
def selectsRaid (unitTarget : ι) : Bool :=
  !check.isTotem unitTarget && check.isValidAssistTarget unitTarget &&
    w.isInRaidWith check.referer unitTarget

/-- The switch over the selection type. -/
def selects (unitTarget : ι) : Bool :=
  match check.targetSelectionType with
  | .enemy => !check.isTotem unitTarget && check.isValidAttackTarget unitTarget
  | .ally => !check.isTotem unitTarget && check.isValidAssistTarget unitTarget
  | .party => !check.isTotem unitTarget && check.isValidAssistTarget unitTarget &&
      w.isInPartyWith check.referer unitTarget
  | .raidClass => w.unitClass check.referer == w.unitClass unitTarget &&
      check.selectsRaid w unitTarget
  | .raid => check.selectsRaid w unitTarget
  | _ => true

/-- The tests before the conditions; a corpse stands for its owner. -/
def suits (target : ι) : Bool :=
  check.inRange target && check.checkTarget target &&
    if w.objectType target = .corpse then (check.findOwner target).any (check.selects w)
    else (w.toUnit target).all (check.selects w)

/-- `WorldObjectSpellAreaTargetCheck::operator()`. -/
def accepts (references : References) (depth : Nat) (target : ι) : Option Bool :=
  if !check.suits w target then some false
  else match check.condList with
  | none => some true
  | some conditions => w.isObjectMeetToConditions references
      (.of (some target) (some check.caster)) depth conditions

end TargetCheck

/-- The objects around a position: those that travel with their map and those that belong to a
grid. -/
structure Cells where
  worldObjects : List ι
  gridObjects : List ι
  worldTypes : ∀ o ∈ worldObjects, w.objectType o = .player ∨ w.objectType o = .unit ∨
    w.objectType o = .corpse ∨ w.objectType o = .dynamicObject
  gridTypes : ∀ o ∈ gridObjects, w.objectType o = .gameObject ∨ w.objectType o = .unit ∨
    w.objectType o = .dynamicObject ∨ w.objectType o = .corpse ∨ w.objectType o = .areaTrigger

structure AreaSearch extends Cells w where
  spellInfo : SpellInfo
  objectType : SpellTargetObjectType
  check : TargetCheck ι
  /-- The corpses of a grid are bones, which no player owns. -/
  bones : ∀ o ∈ gridObjects, w.objectType o = .corpse → check.findOwner o = none

/-- The visits of a `WorldObjectListSearcher`. -/
def visit (mask : UInt32) (accepts : ι → Option Bool) : List ι → Option (List ι)
  | [] => some []
  | o :: rest =>
    if (w.objectType o).within mask then
      (accepts o).bind fun found => (visit mask accepts rest).map fun more =>
        if found then o :: more else more
    else visit mask accepts rest

namespace AreaSearch

variable {w} (search : AreaSearch w)

def searchTargets (references : References) (depth : Nat) (containerMask : UInt32) :
    Option (List ι) :=
  let accepts := search.check.accepts w references depth
  let searchInGrid := containerMask &&& (gridMapTypeMaskCreature ||| gridMapTypeMaskGameObject)
  let searchInWorld := containerMask &&&
    (gridMapTypeMaskCreature ||| gridMapTypeMaskPlayer ||| gridMapTypeMaskCorpse)
  (if searchInWorld != 0 then visit w containerMask accepts search.worldObjects else some []).bind
    fun world =>
      (if searchInGrid != 0 then visit w containerMask accepts search.gridObjects
      else some []).map fun grid => world ++ grid

/-- `Spell::SearchAreaTargets`, with the conditions that narrow the types; the code narrows by those
that it checks. -/
def searchAreaTargets (references : References) (depth : Nat)
    (condList : Option (List Condition)) : Option (List ι) :=
  (getSearcherTypeMask references depth search.spellInfo search.objectType condList).bind
    fun containerTypeMask =>
      if containerTypeMask = 0 then some []
      else search.searchTargets references depth containerTypeMask

end AreaSearch

end

end OpenWoW.Spells
