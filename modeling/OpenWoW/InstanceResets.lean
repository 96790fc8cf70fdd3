import Mathlib.Data.List.Sort
import OpenWoW.InstanceSaves

/-! The times and events at which instances are reset. -/
namespace OpenWoW.Instances

def minute : Nat := 60
def hour : Nat := 3600
def day : Nat := 86400

/-- Type 0 resets an instance, 1 to 3 warn of a global reset and 4 executes it. -/
structure InstResetEvent where
  type : Nat
  difficulty : Nat
  mapid : Nat
  instanceId : Nat
  deriving DecidableEq, Repr

namespace InstResetEvent

/-- The constructor, that cuts each argument to the width of its field. -/
def make (type mapid difficulty instanceId : Nat) : InstResetEvent :=
  ⟨type % 256, difficulty % 256, mapid % 65536, instanceId % 65536⟩

end InstResetEvent

abbrev ResetTimeQueue : Type := List (Int × InstResetEvent)

/-- A multimap inserts behind the entries of the same key. -/
def ResetTimeQueue.insert (queue : ResetTimeQueue) (time : Int) (event : InstResetEvent) :
    ResetTimeQueue :=
  queue.orderedInsert (fun x y => x.1 < y.1) (time, event)

/-- What an update reports: the resets of instances, the warnings of global resets, and the
global resets with the reset time they found and the one they left. -/
inductive Done where
  | instanceReset (mapid instanceId : Nat)
  | warning (mapid difficulty : Nat)
  | globalReset (mapid difficulty resetTime nextReset : Nat)
  deriving DecidableEq, Repr

namespace World

/-- The hour of the day at which global resets happen, in seconds. -/
def resetHour (w : World) : Nat := w.resetTimeHour * hour % 2 ^ 32

def period (w : World) (mapDiff : MapDifficulty) : Nat :=
  let period := (w.scaled mapDiff.resetTime).toNat
  if period < day then day else period

def nextReset (w : World) (mapDiff : MapDifficulty) (resetTime : Nat) : Nat :=
  ((resetTime + minute) / day * day + w.period mapDiff + w.resetHour) % 2 ^ 32

end World

structure InstanceSaveManager where
  saves : Saves
  /-- `m_resetTimeByMapDifficulty`, 0 where it has no entry. -/
  resetTimeByMapDifficulty : Nat × Nat → Nat
  resetTimeQueue : ResetTimeQueue

namespace InstanceSaveManager

def empty : InstanceSaveManager := ⟨Saves.empty, fun _ => 0, []⟩

def getResetTimeFor (m : InstanceSaveManager) (mapid difficulty : Nat) : Nat :=
  m.resetTimeByMapDifficulty (pair32 mapid difficulty)

def setResetTimeFor (m : InstanceSaveManager) (mapid difficulty t : Nat) :
    InstanceSaveManager :=
  { m with resetTimeByMapDifficulty :=
      Function.update m.resetTimeByMapDifficulty (pair32 mapid difficulty) t }

/-- `ScheduleReset(true, ...)`. -/
def scheduleReset (m : InstanceSaveManager) (time : Int) (event : InstResetEvent) :
    InstanceSaveManager :=
  { m with resetTimeQueue := m.resetTimeQueue.insert time event }

def addInstanceSave (w : World) (m : InstanceSaveManager) (now mapId instanceId : Nat)
    (difficulty : Difficulty) (resetTime : Nat) (canReset : Bool) : InstanceSaveManager :=
  match m.saves.getInstanceSave instanceId with
  | some _ => m
  | none =>
    match w.mapStore mapId with
    | none => m
    | some entry =>
      if instanceId = 0 then m
      else if difficulty.val ≥ (if entry.isRaid then maxRaidDifficulty
          else maxDungeonDifficulty) then m
      else if resetTime ≠ 0 then
        { m with saves := m.saves.newSave mapId instanceId difficulty resetTime canReset }
      else if entry.isRaid ∨ difficulty > Difficulty.dungeonNormal then
        let resetTime := m.getResetTimeFor mapId difficulty
        { m with saves := m.saves.newSave mapId instanceId difficulty resetTime canReset }
      else
        let resetTime := now + 2 * hour
        let m := m.scheduleReset resetTime (.make 0 mapId difficulty instanceId)
        { m with saves := m.saves.newSave mapId instanceId difficulty resetTime canReset }

/-- `_ResetInstance`. `CreateBaseMap` asserts that the map exists. -/
def resetInstance (w : World) (m : InstanceSaveManager) (mapid instanceId : Nat) :
    Except Fault (InstanceSaveManager × List Done) :=
  match w.mapStore mapid with
  | none => throw .noMap
  | some entry =>
    if entry.instanceable then do
      let saves ← m.saves.resetInstanceSave instanceId
      pure ({ m with saves := saves }, [.instanceReset mapid instanceId])
    else pure (m, [])

/-- The part of `_ResetOrWarnAll` that executes a global reset. -/
def resetAll (w : World) (m : InstanceSaveManager) (mapid difficulty resetTime : Nat) :
    Except Fault (InstanceSaveManager × List Done) :=
  match w.getMapDifficultyData mapid difficulty with
  | none => pure (m, [])
  | some mapDiff =>
    if mapDiff.resetTime = 0 then pure (m, [])
    else do
      let saves ← m.saves.resetSavesOf mapid difficulty
      let nextReset := w.nextReset mapDiff resetTime
      let m := { m with saves := saves }.setResetTimeFor mapid difficulty nextReset
      -- the difference is taken in 32 bits
      let warn : Nat := (nextReset + 2 ^ 32 - 3600) % 2 ^ 32
      pure (m.scheduleReset warn (.make 1 mapid difficulty 0),
        [.globalReset mapid difficulty resetTime nextReset])

def resetOrWarnAll (w : World) (m : InstanceSaveManager) (mapid difficulty : Nat) (warn : Bool)
    (resetTime : Nat) : Except Fault (InstanceSaveManager × List Done) :=
  match w.mapStore mapid with
  | none => throw .noMap
  | some entry =>
    if entry.instanceable then
      if warn then pure (m, [.warning mapid difficulty])
      else m.resetAll w mapid difficulty resetTime
    else pure (m, [])

end InstanceSaveManager

namespace Tables

end Tables

namespace InstanceSaveManager

end InstanceSaveManager

end OpenWoW.Instances
