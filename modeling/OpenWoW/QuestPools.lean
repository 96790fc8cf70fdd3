import Mathlib
import OpenWoW.Lib.Run

/-! The pools of daily and weekly quests: which quests of a pool can be taken today. -/
namespace OpenWoW.QuestPools

/-- What the server loads. A giver is the entry of a creature or of a gameobject. -/
structure Tables where
  /-- `creature_questrelation` and `gameobject_questrelation`: a giver and a quest. -/
  creatureStarters : List (Nat × Nat)
  goStarters : List (Nat × Nat)
  creatureDistinct : creatureStarters.Nodup
  goDistinct : goStarters.Nodup
  /-- `pool_quest`: a quest and its pool. -/
  poolQuest : List (Nat × Nat)
  poolPositive : ∀ row ∈ poolQuest, row.2 ≠ 0
  /-- What `LoadFromDB` asks of a row: that the quest exists and is as often repeated as the
  pool's others, that the pool exists. -/
  accepts : Nat × Nat → Bool
  maxPoolId : Nat
  maxLimit : Nat → Nat
  maxLimit_lt : ∀ pool, maxLimit pool < 2 ^ 32
  isDaily : Nat → Bool
  isWeekly : Nat → Bool
  /-- The pool is part of another pool. -/
  isChild : Nat → Bool
  /-- `pool_quest_save` before the start: a pool and a quest. -/
  saved : List (Nat × Nat)

namespace Tables

variable (tables : Tables)

/-- The pools that the `LEFT JOIN` finds for a quest, zero where there is none. -/
def joined (quest : Nat) : List Nat :=
  match tables.poolQuest.filter (·.1 = quest) with
  | [] => [0]
  | row :: rows => (row :: rows).map (·.2)

/-- The relations of quests without a pool. -/
def relations (starters : List (Nat × Nat)) : List (Nat × Nat) :=
  starters.flatMap fun (giver, quest) =>
    ((tables.joined quest).filter (· = 0)).map fun _ => (giver, quest)

/-- `mQuestCreatureRelation` or `mQuestGORelation`: a quest and a giver. -/
def pooled (starters : List (Nat × Nat)) : List (Nat × Nat) :=
  starters.flatMap fun (giver, quest) =>
    ((tables.joined quest).filter (· ≠ 0)).map fun _ => (quest, giver)

def started (quest : Nat) : Bool :=
  (tables.pooled tables.creatureStarters).any (·.1 = quest) ||
    (tables.pooled tables.goStarters).any (·.1 = quest)

def rows : List (Nat × Nat) :=
  tables.poolQuest.filter fun row => tables.accepts row && tables.started row.1

/-- `EqualChanced` of a group; quests have no chances of their own. -/
def group (pool : Nat) : List Nat := (tables.rows.filter (·.2 = pool)).map (·.1)

/-- `mQuestSearchMap`: a quest and the pool of its first row. -/
def searchMap : List (Nat × Nat) :=
  tables.rows.foldl (fun map row => if row.1 ∈ map.map (·.1) then map else map ++ [row]) []

end Tables

structure PoolMgr where
  /-- `mActiveQuests`. -/
  activeQuests : List Nat := []
  /-- `mSpawnedPools`. -/
  spawned : Nat → Nat := fun _ => 0
  /-- The relation multimaps: a giver and a quest. -/
  creatureQuests : List (Nat × Nat)
  goQuests : List (Nat × Nat)
  /-- `pool_quest_save`. -/
  saved : List (Nat × Nat)
  /-- The quests that were counted for a pool. -/
  counted : Nat → List Nat := fun _ => []

def load (tables : Tables) : PoolMgr where
  creatureQuests := tables.relations tables.creatureStarters
  goQuests := tables.relations tables.goStarters
  saved := tables.saved

namespace PoolMgr

def activateObject (s : PoolMgr) (quest pool : Nat) : PoolMgr :=
  { s with
    activeQuests := s.activeQuests.insert quest
    spawned := Function.update s.spawned pool (s.spawned pool + 1)
    counted := Function.update s.counted pool (quest :: s.counted pool) }

def removeObject (s : PoolMgr) (quest pool : Nat) : PoolMgr :=
  { s with
    activeQuests := s.activeQuests.erase quest
    spawned := Function.update s.spawned pool (s.spawned pool - 1)
    counted := Function.update s.counted pool ((s.counted pool).erase quest) }

def insertRelations (pooled : List (Nat × Nat)) (quest : Nat) (questMap : List (Nat × Nat)) :
    List (Nat × Nat) :=
  (pooled.filter (·.1 = quest)).foldl (fun map row => (row.2, row.1) :: map) questMap

def eraseRelations (pooled : List (Nat × Nat)) (quest : Nat) (questMap : List (Nat × Nat)) :
    List (Nat × Nat) :=
  (pooled.filter (·.1 = quest)).foldl (fun map row => map.erase (row.2, row.1)) questMap

variable (tables : Tables)

def spawn1Object (s : PoolMgr) (quest : Nat) : PoolMgr :=
  { s with
    creatureQuests :=
      insertRelations (tables.pooled tables.creatureStarters) quest s.creatureQuests
    goQuests := insertRelations (tables.pooled tables.goStarters) quest s.goQuests }

def despawn1Object (s : PoolMgr) (quest : Nat) : PoolMgr :=
  { s with
    creatureQuests :=
      eraseRelations (tables.pooled tables.creatureStarters) quest s.creatureQuests
    goQuests := eraseRelations (tables.pooled tables.goStarters) quest s.goQuests }

/-- The two calls for each quest that becomes active. -/
def activate (pool : Nat) (s : PoolMgr) (quest : Nat) : PoolMgr :=
  (s.activateObject quest pool).spawn1Object tables quest

def deactivate (pool : Nat) (s : PoolMgr) (quest : Nat) : PoolMgr :=
  if quest ∈ s.activeQuests then (s.despawn1Object tables quest).removeObject quest pool else s

def despawnObject (s : PoolMgr) (pool : Nat) : PoolMgr :=
  (tables.group pool).foldl (deactivate tables pool) s

/-- `--limit` on 32 bits. -/
def decrease (limit : Nat) : Nat := (limit + (2 ^ 32 - 1)) % 2 ^ 32

/-- `SelectRandomContainerElement`. -/
def select (container : List Nat) (random : Nat) : Nat :=
  container.getD (random % container.length) 0

/-- The rows that a loop `do .. while (result->NextRow() && limit)` handles. -/
def fetched (limit : Nat) : List Nat → List Nat
  | [] => []
  | quest :: rest => quest :: if decrease limit ≠ 0 then fetched (decrease limit) rest else []

/-- The loop that takes quests that are active now; each turn makes `current` shorter. -/
def recycle (limit : Nat) (random : Nat → Nat) : Nat → List Nat → List Nat → List Nat
  | 0, _, newQuests => newQuests
  | turns + 1, current, newQuests =>
    let quest := select current (random turns)
    let newQuests := newQuests.insert quest
    let current := current.erase quest
    if newQuests.length < limit ∧ current ≠ [] then recycle limit random turns current newQuests
    else newQuests

/-- The quests that the last loop selects; each turn makes `newQuests` shorter. -/
def selected (random : Nat → Nat) : Nat → Nat → List Nat → List Nat
  | 0, _, _ => []
  | turns + 1, limit, newQuests =>
    let quest := select newQuests (random turns)
    let rest := newQuests.erase quest
    quest :: if decrease limit ≠ 0 ∧ rest ≠ [] then selected random turns (decrease limit) rest
      else []

def saveQuestsToDB (s : PoolMgr) : PoolMgr :=
  { s with
    saved := (s.saved.filter fun row => tables.group row.1 = []) ++
      (tables.searchMap.filter fun entry => entry.1 ∈ s.activeQuests).map fun entry =>
        (entry.2, entry.1) }

def newQuests (s : PoolMgr) (pool : Nat) (recycling : Nat → Nat) : List Nat :=
  let inactive := ((tables.group pool).filter (· ∉ s.activeQuests)).dedup
  if inactive.length < tables.maxLimit pool ∧ s.activeQuests ≠ [] then
    recycle (tables.maxLimit pool) recycling s.activeQuests.length s.activeQuests inactive
  else inactive

/-- `SpawnPool<Quest>` and the group's `SpawnObject`. -/
def spawnPool (s : PoolMgr) (pool : Nat) (triggerFrom : Bool) (recycling choosing : Nat → Nat) :
    PoolMgr :=
  if tables.group pool = [] then s
  else
    let result := (s.saved.filter (·.1 = pool)).map (·.2)
    if ¬triggerFrom ∧ result ≠ [] then
      (fetched (tables.maxLimit pool) result).foldl (activate tables pool) s
    else
      let new := s.newQuests tables pool recycling
      let cleared := s.despawnObject tables pool
      if new = [] then cleared
      else
        let after := (selected choosing new.length (tables.maxLimit pool) new).foldl
          (activate tables pool) cleared
        if triggerFrom then after else after.saveQuestsToDB tables

end PoolMgr

/-- What happens to one group or to the saved state. -/
inductive Input where
  | spawnPool (pool : Nat) (triggerFrom : Bool) (recycling choosing : Nat → Nat)
  | despawnPool (pool : Nat)
  | saveQuestsToDB

/-- The calls from outside. What the update of a mother pool does to the groups of its children is
any list of inputs. -/
inductive Call where
  | spawnPool (pool : Nat) (children : List Input) (recycling choosing : Nat → Nat)
  | changeDailyQuests (random : Nat → (Nat → Nat) × (Nat → Nat)) (mothers : Nat → List Input)
  | changeWeeklyQuests (random : Nat → (Nat → Nat) × (Nat → Nat)) (mothers : Nat → List Input)

variable (tables : Tables)

/-- The loop over the groups that leaves out those of quests of the other kind. -/
def changeQuests (others : Nat → Bool) (random : Nat → (Nat → Nat) × (Nat → Nat))
    (mothers : Nat → List Input) : List Input :=
  ((List.range (tables.maxPoolId + 1)).flatMap fun pool =>
    match tables.group pool with
    | [] => []
    | first :: _ =>
      if others first then []
      else if tables.isChild pool then mothers pool
      else [.spawnPool pool true (random pool).1 (random pool).2]) ++ [.saveQuestsToDB]

def Call.inputs : Call → List Input
  | .spawnPool pool children recycling choosing =>
    children ++ [.spawnPool pool false recycling choosing]
  | .changeDailyQuests random mothers => changeQuests tables tables.isWeekly random mothers
  | .changeWeeklyQuests random mothers => changeQuests tables tables.isDaily random mothers

def step (s : PoolMgr) : Input → PoolMgr × Unit
  | .spawnPool pool triggerFrom recycling choosing =>
    (s.spawnPool tables pool triggerFrom recycling choosing, ())
  | .despawnPool pool => (s.despawnObject tables pool, ())
  | .saveQuestsToDB => (s.saveQuestsToDB tables, ())

end OpenWoW.QuestPools
