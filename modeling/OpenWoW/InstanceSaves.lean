import Mathlib

/-! Instance saves, and the binds of players and groups to them. -/
namespace OpenWoW.Instances

abbrev maxDifficulty : Nat := 4

/-- `enum Difficulty`: dungeons and raids share its values. -/
abbrev Difficulty : Type := Fin maxDifficulty

namespace Difficulty

def dungeonNormal : Difficulty := 0
def dungeonHeroic : Difficulty := 1

end Difficulty

def maxRaidDifficulty : Nat := 4
def maxDungeonDifficulty : Nat := 3
def raidDifficulty25ManNormal : Nat := 1

inductive MapType where
  | common | mapInstance | raid | battleground | arena | scenario
  deriving DecidableEq, Repr

structure MapEntry where
  mapType : MapType
  deriving DecidableEq, Repr

namespace MapEntry

def isRaid (entry : MapEntry) : Bool := entry.mapType = .raid

def instanceable (entry : MapEntry) : Bool :=
  entry.mapType = .mapInstance ∨ entry.mapType = .raid ∨ entry.mapType = .battleground ∨
    entry.mapType = .arena

end MapEntry

structure MapDifficulty where
  resetTime : UInt32
  deriving DecidableEq, Repr

/-- `MAKE_PAIR32`, whose two halves are 16 bits wide. -/
def pair32 (mapid difficulty : Nat) : Nat × Nat := (mapid % 65536, difficulty % 65536)

/-- A link of a player or group to the save at an address. -/
structure Bind where
  save : Nat
  perm : Bool
  deriving DecidableEq, Repr

/-- What the functions read of the stores and the configuration. -/
structure World where
  mapStore : Nat → Option MapEntry
  mapDifficulties : AList fun _ : Nat × Nat => MapDifficulty
  packed : ∀ pair ∈ mapDifficulties.keys, pair.1 < 65536 ∧ pair.2 < 65536
  resetTimeHour : Nat
  /-- `uint32(((resetTime * RATE_INSTANCE_RESET_TIME) / DAY) * DAY)`, with its floats. -/
  scaled : UInt32 → UInt32
  isBGOrBFGroup : Nat → Bool
  /-- What is found past the end of `m_boundInstances`, by difficulty and map. -/
  astray : Nat → Nat → Option Bind

namespace World

def getMapDifficultyData (w : World) (mapId difficulty : Nat) : Option MapDifficulty :=
  w.mapDifficulties.lookup (pair32 mapId difficulty)

/-- `tmpDiff -= n` of 32 bits. -/
def lower (tmpDiff n : Nat) : Nat := (tmpDiff + 2 ^ 32 - n) % 2 ^ 32

/-- The difficulty that `GetDownscaledMapDifficultyData` leaves in its argument. -/
def downscaled (w : World) (mapId difficulty : Nat) : Nat :=
  if (w.getMapDifficultyData mapId difficulty).isSome then difficulty
  else
    let tmpDiff := lower difficulty (if difficulty > raidDifficulty25ManNormal then 2 else 1)
    if (w.getMapDifficultyData mapId tmpDiff).isSome then tmpDiff else lower tmpDiff 1

end World

structure InstanceSave where
  resetTime : Nat
  instanceid : Nat
  mapid : Nat
  difficulty : Difficulty
  canReset : Bool
  playerList : List Nat
  groupList : List Nat
  deriving DecidableEq, Repr

/-- Who is bound: the two lists of a save. -/
inductive Kind where
  | player | group
  deriving DecidableEq, Repr

namespace InstanceSave

def list (save : InstanceSave) : Kind → List Nat
  | .player => save.playerList
  | .group => save.groupList

def withList (save : InstanceSave) (kind : Kind) (list : List Nat) : InstanceSave :=
  match kind with
  | .player => { save with playerList := list }
  | .group => { save with groupList := list }

def unused (save : InstanceSave) : Bool := save.playerList.isEmpty && save.groupList.isEmpty

end InstanceSave

/-- Why the server stops: the assertion of `~InstanceSave`, a look at a save that was deleted,
a map that the store does not have, a loop that takes more turns than it was given. -/
inductive Fault where
  | linkedSave | freedSave | noMap | outOfTurns
  deriving DecidableEq, Repr

abbrev BoundInstancesMap : Type := AList fun _ : Nat => Bind

structure Saves where
  /-- The saves by address. -/
  heap : Nat → Option InstanceSave
  /-- The next address. -/
  next : Nat
  instanceSaveById : AList fun _ : Nat => Nat
  /-- `m_boundInstances` of each player and each group. -/
  boundInstances : Kind → Nat → Difficulty → BoundInstancesMap
  lockInstLists : Bool

namespace Saves

def empty : Saves := ⟨fun _ => none, 0, ∅, fun _ _ _ => ∅, false⟩

def deref (s : Saves) (address : Nat) : Except Fault InstanceSave :=
  match s.heap address with
  | some save => .ok save
  | none => .error .freedSave

def setSave (s : Saves) (address : Nat) (save : InstanceSave) : Saves :=
  { s with heap := Function.update s.heap address (some save) }

def setBound (s : Saves) (kind : Kind) (holder : Nat) (difficulty : Difficulty)
    (bound : BoundInstancesMap) : Saves :=
  { s with
    boundInstances := Function.update s.boundInstances kind
      (Function.update (s.boundInstances kind) holder
        (Function.update (s.boundInstances kind holder) difficulty bound)) }

/-- `new InstanceSave`, registered under its id. -/
def newSave (s : Saves) (mapId instanceId : Nat) (difficulty : Difficulty) (resetTime : Nat)
    (canReset : Bool) : Saves :=
  { s with
    heap := Function.update s.heap s.next
      (some ⟨resetTime, instanceId, mapId % 65536, difficulty, canReset, [], []⟩)
    next := s.next + 1
    instanceSaveById := s.instanceSaveById.insert instanceId s.next }

def getInstanceSave (s : Saves) (instanceId : Nat) : Option Nat :=
  s.instanceSaveById.lookup instanceId

/-- `delete`, with the assertion of `~InstanceSave`. -/
def delete (s : Saves) (address : Nat) : Except Fault Saves := do
  let save ← s.deref address
  if save.unused then
    pure { s with heap := Function.update s.heap address none }
  else
    throw .linkedSave

def removeInstanceSave (s : Saves) (instanceId : Nat) : Except Fault Saves :=
  match s.getInstanceSave instanceId with
  | none => pure s
  | some address => do
      let s ← s.delete address
      pure { s with instanceSaveById := s.instanceSaveById.erase instanceId }

def unloadIfEmpty (s : Saves) (address : Nat) : Except Fault Saves := do
  let save ← s.deref address
  if save.unused && !s.lockInstLists then s.removeInstanceSave save.instanceid else pure s

/-- `RemovePlayer` and `RemoveGroup`. -/
def remove (s : Saves) (kind : Kind) (address holder : Nat) : Except Fault Saves := do
  let save ← s.deref address
  let left := (save.list kind).filter fun other => other ≠ holder
  (s.setSave address (save.withList kind left)).unloadIfEmpty address

/-- `AddPlayer` and `AddGroup`. -/
def add (s : Saves) (kind : Kind) (address holder : Nat) : Except Fault Saves := do
  let save ← s.deref address
  pure (s.setSave address (save.withList kind (save.list kind ++ [holder])))

/-- `UnbindInstance` of both classes. -/
def unbindInstance (s : Saves) (kind : Kind) (holder mapid : Nat) (difficulty : Difficulty) :
    Except Fault Saves :=
  match (s.boundInstances kind holder difficulty).lookup mapid with
  | none => pure s
  | some bind => do
      let s ← s.remove kind bind.save holder
      pure (s.setBound kind holder difficulty
        ((s.boundInstances kind holder difficulty).erase mapid))

/-- What `BindToInstance` of both classes does with a save. -/
def bindToInstance (s : Saves) (kind : Kind) (holder address : Nat) (permanent : Bool) :
    Except Fault Saves := do
  let save ← s.deref address
  let bind? := (s.boundInstances kind holder save.difficulty).lookup save.mapid
  let s ←
    if bind?.map (·.save) = some address then pure s
    else do
      let s ← match bind? with
        | none => pure s
        | some bind => s.remove kind bind.save holder
      s.add kind address holder
  pure (s.setBound kind holder save.difficulty
    ((s.boundInstances kind holder save.difficulty).insert save.mapid ⟨address, permanent⟩))

namespace Player

def unbindInstance (s : Saves) (player mapid : Nat) (difficulty : Difficulty) :
    Except Fault Saves :=
  s.unbindInstance .player player mapid difficulty

def bindToInstance (s : Saves) (player : Nat) (save? : Option Nat) (permanent : Bool) :
    Except Fault Saves :=
  match save? with
  | none => pure s
  | some address => do
      let s ← s.bindToInstance .player player address permanent
      let save ← s.deref address
      pure (if permanent then s.setSave address { save with canReset := false } else s)

end Player

namespace Group

def unbindInstance (s : Saves) (group mapid : Nat) (difficulty : Difficulty) :
    Except Fault Saves :=
  s.unbindInstance .group group mapid difficulty

def bindToInstance (w : World) (s : Saves) (group : Nat) (save? : Option Nat)
    (permanent : Bool) : Except Fault Saves :=
  match save? with
  | none => pure s
  | some address =>
    if w.isBGOrBFGroup group then pure s else s.bindToInstance .group group address permanent

/-- The downscaled difficulty is not checked before it is used as an index. -/
def getBoundInstance (w : World) (s : Saves) (group : Nat) (difficulty mapId : Nat) :
    Option Bind :=
  let difficulty := w.downscaled mapId difficulty
  if inside : difficulty < maxDifficulty then
    (s.boundInstances .group group ⟨difficulty, inside⟩).lookup mapId
  else
    w.astray difficulty mapId

end Group

/-- One turn of the inner loop of `ConvertInstancesToGroup`. -/
def convertBind (w : World) (player group : Nat) (switchLeader : Bool) (difficulty : Difficulty)
    (s : Saves) (entry : Sigma fun _ : Nat => Bind) : Except Fault Saves := do
  let save ← s.deref entry.2.save
  let s ←
    if !switchLeader || (Group.getBoundInstance w s group save.difficulty entry.1).isNone then
      Group.bindToInstance w s group (some entry.2.save) entry.2.perm
    else pure s
  if switchLeader && !entry.2.perm then Player.unbindInstance s player entry.1 difficulty
  else pure s

def Player.convertInstancesToGroup (w : World) (s : Saves) (player group : Nat)
    (switchLeader : Bool) : Except Fault Saves :=
  (List.finRange maxDifficulty).foldlM (fun s difficulty =>
    (s.boundInstances .player player difficulty).entries.foldlM
      (convertBind w player group switchLeader difficulty) s) s

inductive ResetMethod where
  | all | changeDifficulty | global | groupDisband | groupJoin | respawnDelay
  deriving DecidableEq, Repr

/-- A loaded map, as `sMapMgr->FindMap` finds it. -/
structure LoadedMap where
  isDungeon : Bool
  havePlayers : Bool
  deriving DecidableEq, Repr

/-- `InstanceMap::Reset` answers whether nobody is inside. -/
def LoadedMap.reset (map : LoadedMap) : Bool := !map.havePlayers

/-- Whether `Group::ResetInstances` takes away the bind to a save. -/
def resets (w : World) (maps : Nat → Nat → Option LoadedMap) (method : ResetMethod)
    (isRaid : Bool) (diff : Difficulty) (mapid : Nat) (save : InstanceSave) : Bool :=
  match w.mapStore mapid with
  | none => false
  | some entry =>
    if entry.isRaid ≠ isRaid ∨ (save.canReset = false ∧ method ≠ .groupDisband) then false
    else if method = .all ∧ (entry.isRaid ∨ diff = Difficulty.dungeonHeroic) then false
    else
      let isEmpty := match maps save.mapid save.instanceid with
        | none => true
        | some map =>
          if map.isDungeon && !(method = .groupDisband && !save.canReset) then
            if save.canReset then map.reset else !map.havePlayers
          else true
      isEmpty || method = .groupDisband || method = .changeDifficulty

/-- The loop of `Group::ResetInstances` at a position of the map; after an erasure it starts
again. -/
def Group.resetLoop (w : World) (maps : Nat → Nat → Option LoadedMap) (group : Nat)
    (method : ResetMethod) (isRaid : Bool) (diff : Difficulty) :
    Nat → Nat → Saves → Except Fault Saves
  | 0, _, _ => throw .outOfTurns
  | turns + 1, position, s =>
    match (s.boundInstances .group group diff).entries[position]? with
    | none => pure s
    | some entry => do
        let save ← s.deref entry.2.save
        if resets w maps method isRaid diff entry.1 save then do
          let s := s.setBound .group group diff
            ((s.boundInstances .group group diff).erase entry.1)
          let s ← s.remove .group entry.2.save group
          resetLoop w maps group method isRaid diff turns 0 s
        else resetLoop w maps group method isRaid diff turns (position + 1) s

def Group.resetInstances (w : World) (maps : Nat → Nat → Option LoadedMap) (s : Saves)
    (group : Nat) (method : ResetMethod) (isRaid : Bool) (diff : Difficulty) :
    Except Fault Saves :=
  if w.isBGOrBFGroup group then pure s
  else
    let bound := (s.boundInstances .group group diff).entries.length
    resetLoop w maps group method isRaid diff ((bound + 1) * (bound + 1)) 0 s

/-- A loop of `_ResetSave`: who comes first in the list is unbound until nobody is left. -/
def unbindAll (kind : Kind) (address : Nat) : Nat → Saves → Except Fault Saves
  | turns, s => do
      let save ← s.deref address
      match save.list kind with
      | [] => pure s
      | first :: _ =>
        match turns with
        | 0 => throw .outOfTurns
        | turns + 1 => do
            let s ← s.unbindInstance kind first save.mapid save.difficulty
            unbindAll kind address turns s

/-- `_ResetSave`, with a turn of its loops for everyone in the lists. -/
def resetSave (s : Saves) (instanceId address : Nat) : Except Fault Saves := do
  let s := { s with lockInstLists := true }
  let save ← s.deref address
  let s ← unbindAll .player address save.playerList.length s
  let s ← unbindAll .group address save.groupList.length s
  let s ← s.delete address
  pure { s with
    instanceSaveById := s.instanceSaveById.erase instanceId
    lockInstLists := false }

/-- What `_ResetInstance` does with a save. -/
def resetInstanceSave (s : Saves) (instanceId : Nat) : Except Fault Saves :=
  match s.getInstanceSave instanceId with
  | none => pure s
  | some address => s.resetSave instanceId address

/-- What `_ResetOrWarnAll` does with the saves of a map and difficulty. -/
def resetSavesOf (s : Saves) (mapid difficulty : Nat) : Except Fault Saves :=
  s.instanceSaveById.entries.foldlM (fun s entry => do
    let save ← s.deref entry.2
    if save.mapid = mapid ∧ save.difficulty.val = difficulty then s.resetSave entry.1 entry.2
    else pure s) s

end Saves

end OpenWoW.Instances
