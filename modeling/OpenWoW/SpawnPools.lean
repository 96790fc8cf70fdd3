import Mathlib
import OpenWoW.Lib.Run

/-! Pools of creatures, of gameobjects and of pools, of which a few are spawned at a time. -/
namespace OpenWoW.SpawnPools

inductive Kind where
  | creature
  | gameObject
  | pool
  deriving DecidableEq, Repr

structure Group where
  explicitlyChanced : List Nat := []
  equalChanced : List Nat := []
  deriving DecidableEq, Repr

/-- The order in which `DespawnObject` goes through a group. -/
def Group.members (group : Group) : List Nat := group.equalChanced ++ group.explicitlyChanced

/-- The pools as they are loaded, each object in one of them. -/
structure Config where
  group : Kind → Nat → Group
  maxLimit : Nat → Nat
  maxLimit_lt : ∀ pool, maxLimit pool < 2 ^ 32
  quests : Nat → List Nat
  /-- `mPoolSearchMap`. -/
  mother : Nat → Option Nat
  distinct : ∀ kind pool, (group kind pool).members.Nodup
  one : ∀ kind guid pool other, guid ∈ (group kind pool).members →
    guid ∈ (group kind other).members → pool = other
  mother_iff : ∀ child pool, child ∈ (group .pool pool).members ↔ mother child = some pool
  maxPoolId : Nat
  known : ∀ child, mother child ≠ none → child ≤ maxPoolId
  /-- What the check for circular references leaves. -/
  acyclic : ∀ pool, ¬Relation.TransGen (fun child up => mother child = some up) pool pool

def Config.hasQuests (config : Config) (pool : Nat) : Bool := !(config.quests pool).isEmpty

def Config.isPartOfAPool (config : Config) (pool : Nat) : Nat := (config.mother pool).getD 0

/-- One random outcome: where the roll among the explicit chances falls below zero, the index among
the equal chances, and what `SpawnObject` of a group of quests leaves, which has its own rules: the
count of the pool and the active quests. -/
structure Chance where
  explicitly : Nat := 0
  equal : Nat := 0
  quests : Option (Nat × (Nat → Bool)) := none

structure ActivePoolData where
  spawnedCreatures : Nat → Bool := fun _ => false
  spawnedGameobjects : Nat → Bool := fun _ => false
  activeQuests : Nat → Bool := fun _ => false
  spawnedPools : Nat → Option Nat := fun _ => none
  /-- The random outcomes to come. -/
  chances : Nat → Chance := fun _ => {}

namespace ActivePoolData

def activeObjectCount (s : ActivePoolData) (pool : Nat) : Nat := (s.spawnedPools pool).getD 0

def isActiveObject (s : ActivePoolData) : Kind → Nat → Bool
  | .creature, guid => s.spawnedCreatures guid
  | .gameObject, guid => s.spawnedGameobjects guid
  | .pool, guid => (s.spawnedPools guid).isSome

/-- `mSpawnedPools[pool] = count`. -/
def setCount (s : ActivePoolData) (pool count : Nat) : ActivePoolData :=
  { s with spawnedPools := Function.update s.spawnedPools pool (some count) }

def activateObject (s : ActivePoolData) (kind : Kind) (guid pool : Nat) : ActivePoolData :=
  let s := match kind with
    | .creature => { s with spawnedCreatures := Function.update s.spawnedCreatures guid true }
    | .gameObject => { s with spawnedGameobjects := Function.update s.spawnedGameobjects guid true }
    | .pool => s.setCount guid 0
  s.setCount pool (s.activeObjectCount pool + 1)

def removeObject (s : ActivePoolData) (kind : Kind) (guid pool : Nat) : ActivePoolData :=
  let s := match kind with
    | .creature => { s with spawnedCreatures := Function.update s.spawnedCreatures guid false }
    | .gameObject =>
      { s with spawnedGameobjects := Function.update s.spawnedGameobjects guid false }
    | .pool => { s with spawnedPools := Function.update s.spawnedPools guid none }
  s.setCount pool (s.activeObjectCount pool - 1)

/-- The next random outcome is used up. -/
def next (s : ActivePoolData) : ActivePoolData := { s with chances := fun n => s.chances (n + 1) }

def rollOne (s : ActivePoolData) (kind : Kind) (group : Group) (triggerFrom : Nat) : Option Nat :=
  let free (guid : Nat) : Bool := guid = triggerFrom || !s.isActiveObject kind guid
  match (group.explicitlyChanced.drop (s.chances 0).explicitly).find? free with
  | some guid => some guid
  | none =>
    match group.equalChanced[(s.chances 0).equal % group.equalChanced.length]? with
    | some guid => if free guid then some guid else none
    | none => none

end ActivePoolData

/-- A value that is cut to a signed number of 32 bits. -/
def signed (n : Int) : Int := (n + 2 ^ 31) % 2 ^ 32 - 2 ^ 31

open ActivePoolData

section

variable (config : Config) (spawnChild despawnChild : ActivePoolData → Nat → ActivePoolData)

/-- Only a pool has more to spawn or despawn than its grid. -/
def oneObject (child : ActivePoolData → Nat → ActivePoolData) (kind : Kind) (s : ActivePoolData)
    (guid : Nat) : ActivePoolData :=
  match kind with
  | .creature => s
  | .gameObject => s
  | .pool => child s guid

def despawnOne (kind : Kind) (pool : Nat) (s : ActivePoolData) (guid : Nat) : ActivePoolData :=
  (oneObject despawnChild kind s guid).removeObject kind guid pool

def despawnObject (kind : Kind) (pool guid : Nat) (s : ActivePoolData) : ActivePoolData :=
  (config.group kind pool).members.foldl
    (fun s object =>
      if s.isActiveObject kind object ∧ (guid = 0 ∨ object = guid) then
        despawnOne despawnChild kind pool s object
      else s) s

def spawnLoop (kind : Kind) (pool : Nat) : Nat → Nat → Nat → ActivePoolData → ActivePoolData
  | 0, _, _, s => s
  | count + 1, lastDespawned, triggerFrom, s =>
    match s.rollOne kind (config.group kind pool) triggerFrom with
    | none => spawnLoop kind pool count lastDespawned triggerFrom s.next
    | some guid =>
      if guid = lastDespawned then
        spawnLoop kind pool count lastDespawned triggerFrom s.next
      else if guid = triggerFrom then spawnLoop kind pool count lastDespawned 0 s.next
      else
        let spawned := oneObject spawnChild kind (s.next.activateObject kind guid pool) guid
        if triggerFrom ≠ 0 then
          spawnLoop kind pool count triggerFrom 0
            (despawnObject config despawnChild kind pool triggerFrom spawned)
        else spawnLoop kind pool count lastDespawned 0 spawned

def spawnObject (kind : Kind) (pool triggerFrom : Nat) (s : ActivePoolData) : ActivePoolData :=
  let count := signed (config.maxLimit pool - s.activeObjectCount pool)
  let count := if triggerFrom ≠ 0 then signed (count + 1) else count
  spawnLoop config spawnChild despawnChild kind pool count.toNat 0 triggerFrom s

/-- `SpawnPool<T>`. -/
def spawnKind (kind : Kind) (pool triggerFrom : Nat) (s : ActivePoolData) : ActivePoolData :=
  if (config.group kind pool).members = [] then s
  else spawnObject config spawnChild despawnChild kind pool triggerFrom s

def despawnKind (kind : Kind) (pool : Nat) (s : ActivePoolData) : ActivePoolData :=
  if (config.group kind pool).members = [] then s
  else despawnObject config despawnChild kind pool 0 s

/-- `SpawnPool<Quest>`. -/
def spawnQuests (pool : Nat) (s : ActivePoolData) : ActivePoolData :=
  if config.hasQuests pool then
    match (s.chances 0).quests with
    | none => s.next
    | some (count, active) => { s.next.setCount pool count with activeQuests := active }
  else s

def despawnQuest (pool : Nat) (s : ActivePoolData) (quest : Nat) : ActivePoolData :=
  if s.activeQuests quest then
    { s with activeQuests := Function.update s.activeQuests quest false }.setCount pool
      (s.activeObjectCount pool - 1)
  else s

def despawnQuests (pool : Nat) (s : ActivePoolData) : ActivePoolData :=
  (config.quests pool).foldl (despawnQuest pool) s

def spawnPoolWith (s : ActivePoolData) (pool : Nat) : ActivePoolData :=
  let s := spawnKind config spawnChild despawnChild .pool pool 0 s
  let s := spawnKind config spawnChild despawnChild .gameObject pool 0 s
  let s := spawnKind config spawnChild despawnChild .creature pool 0 s
  spawnQuests config pool s

def despawnPoolWith (s : ActivePoolData) (pool : Nat) : ActivePoolData :=
  let s := despawnKind config despawnChild .creature pool s
  let s := despawnKind config despawnChild .gameObject pool s
  let s := despawnKind config despawnChild .pool pool s
  despawnQuests config pool s

end

section

variable (config : Config)

/-- `DespawnPool` of a pool with at most that many levels of pools below it. -/
def despawnLevels : Nat → ActivePoolData → Nat → ActivePoolData
  | 0 => despawnPoolWith config fun s _ => s
  | levels + 1 => despawnPoolWith config (despawnLevels levels)

def spawnLevels : Nat → ActivePoolData → Nat → ActivePoolData
  | 0 => spawnPoolWith config (fun s _ => s) fun s _ => s
  | levels + 1 => spawnPoolWith config (spawnLevels levels) (despawnLevels config levels)

def spawnPool (s : ActivePoolData) (pool : Nat) : ActivePoolData :=
  spawnLevels config (config.maxPoolId + 1) s pool

def despawnPool (s : ActivePoolData) (pool : Nat) : ActivePoolData :=
  despawnLevels config (config.maxPoolId + 1) s pool

/-- An update of a child pool is one of its mother, with the child for the trigger. -/
def updatePool (kind : Kind) (s : ActivePoolData) (pool guid : Nat) : ActivePoolData :=
  let mother := config.isPartOfAPool pool
  if mother ≠ 0 then spawnKind config (spawnPool config) (despawnPool config) .pool mother pool s
  else spawnKind config (spawnPool config) (despawnPool config) kind pool guid s

end

inductive Input where
  | spawnPool (pool : Nat) (chances : Nat → Chance)
  | despawnPool (pool : Nat) (chances : Nat → Chance)
  | updatePool (kind : Kind) (pool guid : Nat) (chances : Nat → Chance)

def step (config : Config) (s : ActivePoolData) : Input → ActivePoolData × Unit
  | .spawnPool pool chances => (spawnPool config { s with chances } pool, ())
  | .despawnPool pool chances => (despawnPool config { s with chances } pool, ())
  | .updatePool kind pool guid chances => (updatePool config kind { s with chances } pool guid, ())

end OpenWoW.SpawnPools
