import Mathlib
import OpenWoW.Lib.Checked

/-! The reputation of a player with the factions, and the counters of it. -/
namespace OpenWoW.Reputation

inductive ReputationRank where
  | hated
  | hostile
  | unfriendly
  | neutral
  | friendly
  | honored
  | revered
  | exalted
  deriving DecidableEq, Repr

namespace ReputationRank

def toNat : ReputationRank → Nat
  | hated => 0
  | hostile => 1
  | unfriendly => 2
  | neutral => 3
  | friendly => 4
  | honored => 5
  | revered => 6
  | exalted => 7

instance : LE ReputationRank := ⟨fun r s => r.toNat ≤ s.toNat⟩

instance : DecidableLE ReputationRank := fun r s => inferInstanceAs (Decidable (r.toNat ≤ s.toNat))

end ReputationRank

def pointsInRank : ReputationRank → Int
  | .hated => 36000
  | .hostile => 3000
  | .unfriendly => 3000
  | .neutral => 3000
  | .friendly => 6000
  | .honored => 12000
  | .revered => 21000
  | .exalted => 1000

def reputationCap : Int := 42999
def reputationBottom : Int := -42000

/-- The loop over the ranks from the highest one. -/
def rankFrom (standing : Int) : List ReputationRank → Int → ReputationRank
  | [], _ => .hated
  | rank :: lower, limit =>
    if limit - pointsInRank rank ≤ standing then rank
    else rankFrom standing lower (limit - pointsInRank rank)

def reputationToRank (standing : Int) : ReputationRank :=
  rankFrom standing
    [.exalted, .revered, .honored, .friendly, .neutral, .unfriendly, .hostile, .hated]
    (reputationCap + 1)

example : [42000, 41999, 9000, 8999, -6001].map reputationToRank =
    [.exalted, .revered, .honored, .friendly, .hated] := by decide

def factionFlagVisible : BitVec 8 := 0x01#8
def factionFlagAtWar : BitVec 8 := 0x02#8
def factionFlagHidden : BitVec 8 := 0x04#8
def factionFlagInvisibleForced : BitVec 8 := 0x08#8
def factionFlagPeaceForced : BitVec 8 := 0x10#8
def factionFlagInactive : BitVec 8 := 0x20#8
def factionFlagSpecial : BitVec 8 := 0x80#8

structure FactionEntry where
  id : Nat
  reputationListID : Int32
  baseRepRaceMask : Fin 4 → BitVec 32
  baseRepClassMask : Fin 4 → BitVec 32
  baseRepValue : Fin 4 → Int32
  reputationFlags : Fin 4 → BitVec 32
  deriving DecidableEq

namespace FactionEntry

def canHaveReputation (entry : FactionEntry) : Bool := 0 ≤ entry.reputationListID.toInt

/-- `reputationListID` as a `RepListID`. -/
def repListID (entry : FactionEntry) : Nat := entry.reputationListID.toUInt32.toNat

end FactionEntry

/-- The rows of the faction store in the order of their ids. A store of at most 255 factions
with a reputation list id, all different. -/
structure FactionStore where
  entries : List FactionEntry
  ordered : entries.Pairwise fun a b => a.id < b.id
  few : (entries.filter FactionEntry.canHaveReputation).length ≤ 255
  distinct : ((entries.filter FactionEntry.canHaveReputation).map FactionEntry.repListID).Nodup

namespace FactionStore

def lookupEntry (store : FactionStore) (id : Nat) : Option FactionEntry :=
  store.entries.find? fun entry => entry.id = id

/-- The factions that can have a reputation. -/
def listed (store : FactionStore) : List FactionEntry :=
  store.entries.filter FactionEntry.canHaveReputation

end FactionStore

/-- What the reputation reads of its player. -/
structure Player where
  raceMask : BitVec 32
  classMask : BitVec 32

namespace Player

/-- The first of the four base reputations that is meant for the player. -/
def baseSlot (player : Player) (entry : FactionEntry) : Option (Fin 4) :=
  (List.finRange 4).find? fun i =>
    (entry.baseRepRaceMask i &&& player.raceMask ≠ 0 ∨
      entry.baseRepRaceMask i = 0 ∧ entry.baseRepClassMask i ≠ 0) ∧
    (entry.baseRepClassMask i &&& player.classMask ≠ 0 ∨ entry.baseRepClassMask i = 0)

def getBaseReputation (player : Player) (entry : FactionEntry) : Int :=
  match player.baseSlot entry with
  | some i => (entry.baseRepValue i).toInt
  | none => 0

def getDefaultStateFlags (player : Player) (entry : FactionEntry) : BitVec 32 :=
  match player.baseSlot entry with
  | some i => entry.reputationFlags i
  | none => 0

def getBaseRank (player : Player) (entry : FactionEntry) : ReputationRank :=
  reputationToRank (player.getBaseReputation entry)

end Player

structure FactionState where
  id : Nat := 0
  reputationListID : Nat := 0
  standing : Int := 0
  flags : BitVec 8 := 0
  needSend : Bool := false
  needSave : Bool := false
  deriving DecidableEq

namespace FactionState

def hasFlag (state : FactionState) (flag : BitVec 8) : Bool := state.flags &&& flag ≠ 0#8

def visible (state : FactionState) : Bool := state.hasFlag factionFlagVisible

/-- A forced or hidden faction is not shown, unless it is a special one. -/
def canBeShown (state : FactionState) : Bool :=
  !(state.hasFlag (factionFlagInvisibleForced ||| factionFlagHidden) &&
    !state.hasFlag factionFlagSpecial)

def changed (state : FactionState) (flags : BitVec 8) : FactionState :=
  { state with flags, needSend := true, needSave := true }

def setAtWar (state : FactionState) (atWar : Bool) : FactionState :=
  if atWar && state.hasFlag factionFlagPeaceForced then state
  else if state.hasFlag factionFlagAtWar = atWar then state
  else if atWar then state.changed (state.flags ||| factionFlagAtWar)
  else state.changed (state.flags &&& ~~~ factionFlagAtWar)

def setInactive (state : FactionState) (inactive : Bool) : FactionState :=
  if inactive && (state.hasFlag (factionFlagInvisibleForced ||| factionFlagHidden) ||
      !state.visible) then state
  else if state.hasFlag factionFlagInactive = inactive then state
  else if inactive then state.changed (state.flags ||| factionFlagInactive)
  else state.changed (state.flags &&& ~~~ factionFlagInactive)

/-- Nothing is to be sent or saved where the flags are those of the row. -/
def loaded (state : FactionState) (dbFactionFlags : BitVec 16) : FactionState :=
  if state.flags.setWidth 32 = dbFactionFlags.setWidth 32 then
    { state with needSend := false, needSave := false }
  else state

end FactionState

/-- A row of `character_reputation`. -/
structure ReputationRow where
  faction : UInt16
  standing : Int32
  flags : BitVec 16

structure ReputationMgr where
  factions : Std.ExtTreeMap Nat FactionState := ∅
  visibleFactionCount : Nat := 0
  honoredFactionCount : Nat := 0
  reveredFactionCount : Nat := 0
  exaltedFactionCount : Nat := 0
  sendFactionIncreased : Bool := false

namespace ReputationMgr

def put (mgr : ReputationMgr) (key : Nat) (state : FactionState) : ReputationMgr :=
  { mgr with factions := mgr.factions.insert key state }

def change (mgr : ReputationMgr) (key : Nat) (f : FactionState → FactionState) : ReputationMgr :=
  match mgr.factions[key]? with
  | some state => mgr.put key (f state)
  | none => mgr

/-- `++count` or `--count` of an eight bit counter, where a test holds. -/
def bump (test : Prop) [Decidable test] (count : Nat) (delta : Int) : Checked Nat :=
  if test then .unsigned 8 (count + delta) else pure count

def updateRankCounters (mgr : ReputationMgr) (oldRank newRank : ReputationRank) :
    Checked ReputationMgr := do
  let exalted ← bump (.exalted ≤ oldRank) mgr.exaltedFactionCount (-1)
  let revered ← bump (.revered ≤ oldRank) mgr.reveredFactionCount (-1)
  let honored ← bump (.honored ≤ oldRank) mgr.honoredFactionCount (-1)
  let exalted ← bump (.exalted ≤ newRank) exalted 1
  let revered ← bump (.revered ≤ newRank) revered 1
  let honored ← bump (.honored ≤ newRank) honored 1
  pure { mgr with
    exaltedFactionCount := exalted
    reveredFactionCount := revered
    honoredFactionCount := honored }

/-- `SetVisible` of the faction of a key. -/
def setVisibleAt (mgr : ReputationMgr) (key : Nat) : Checked ReputationMgr :=
  match mgr.factions[key]? with
  | none => pure mgr
  | some state =>
    if !state.canBeShown then pure mgr
    else if state.visible then pure mgr
    else do
      let count ← bump True mgr.visibleFactionCount 1
      pure { mgr.put key (state.changed (state.flags ||| factionFlagVisible)) with
        visibleFactionCount := count }

def setVisible (mgr : ReputationMgr) (entry : FactionEntry) : Checked ReputationMgr :=
  if entry.canHaveReputation then mgr.setVisibleAt entry.repListID else pure mgr

def setAtWar (mgr : ReputationMgr) (repListID : Nat) (on : Bool) : ReputationMgr :=
  match mgr.factions[repListID]? with
  | none => mgr
  | some state =>
    if state.hasFlag (factionFlagInvisibleForced ||| factionFlagHidden) then mgr
    else mgr.change repListID (·.setAtWar on)

def setInactive (mgr : ReputationMgr) (repListID : Nat) (on : Bool) : ReputationMgr :=
  mgr.change repListID (·.setInactive on)

section

variable (store : FactionStore) (player : Player)

def initializeFaction (mgr : ReputationMgr) (entry : FactionEntry) : Checked ReputationMgr :=
  if entry.canHaveReputation then do
    let newFaction : FactionState :=
      { id := entry.id
        reputationListID := entry.repListID
        standing := 0
        flags := (player.getDefaultStateFlags entry).setWidth 8
        needSend := true
        needSave := true }
    let visible ← bump newFaction.visible mgr.visibleFactionCount 1
    let mgr := { mgr with visibleFactionCount := visible }
    let mgr ← mgr.updateRankCounters .hostile (player.getBaseRank entry)
    pure (mgr.put newFaction.reputationListID newFaction)
  else pure mgr

/-- The store is read from its row 1 on. -/
def initializeFactions : Checked ReputationMgr :=
  (store.entries.filter fun entry => 1 ≤ entry.id).foldlM (initializeFaction player) {}

def total (entry : FactionEntry) (state : FactionState) : Int :=
  player.getBaseReputation entry + state.standing

def getRank (mgr : ReputationMgr) (entry : FactionEntry) : Checked ReputationRank :=
  match mgr.factions[entry.repListID]? with
  | some state => do
      let reputation ← .int 32 (total player entry state)
      pure (reputationToRank reputation)
  | none => pure (reputationToRank 0)

/-- The flags of a row, once the standing of the row is there. -/
def loadFlags (mgr : ReputationMgr) (entry : FactionEntry) (dbFactionFlags : BitVec 16) :
    Checked ReputationMgr := do
  let key := entry.repListID
  let has (flag : BitVec 8) : Bool := dbFactionFlags &&& flag.setWidth 16 ≠ 0#16
  let mgr ← (if has factionFlagVisible then mgr.setVisibleAt key else pure mgr)
  let mgr := if has factionFlagInactive then mgr.change key (·.setInactive true) else mgr
  let mgr :=
    if has factionFlagAtWar then mgr.change key (·.setAtWar true)
    else mgr.change key fun state => if state.visible then state.setAtWar false else state
  let rank ← mgr.getRank player entry
  let mgr := if rank ≤ .hostile then mgr.change key (·.setAtWar true) else mgr
  pure (mgr.change key (·.loaded dbFactionFlags))

/-- `_factions[..]` adds a faction that is not there. -/
def loadRow (mgr : ReputationMgr) (row : ReputationRow) : Checked ReputationMgr :=
  match store.lookupEntry row.faction.toNat with
  | none => pure mgr
  | some entry =>
    if entry.canHaveReputation then do
      let key := entry.repListID
      let mgr := mgr.put key
        { mgr.factions[key]?.getD {} with standing := row.standing.toInt }
      let baseRep := player.getBaseReputation entry
      let sum ← .int 32 (baseRep + row.standing.toInt)
      let mgr ← mgr.updateRankCounters (reputationToRank baseRep) (reputationToRank sum)
      mgr.loadFlags player entry row.flags
    else pure mgr

def loadFromDB (rows : List ReputationRow) : Checked ReputationMgr := do
  let mgr ← initializeFactions store player
  rows.foldlM (loadRow store player) mgr

def clampStanding (standing : Int) : Int :=
  if standing > reputationCap then reputationCap
  else if standing < reputationBottom then reputationBottom
  else standing

/-- The total that is asked for. `scaled` is the gain of a standing by the rate of the world,
rounded to a whole number. -/
def wantedStanding (scaled : Int → Int) (state : FactionState) (baseRep : Int) (standing : Int32)
    (incremental : Bool) : Checked Int :=
  if incremental then do
    let gain ← .int 32 (scaled standing.toInt)
    let own ← .int 32 (state.standing + baseRep)
    .int 32 (gain + own)
  else pure standing.toInt

def setOneFactionReputation (scaled : Int → Int) (mgr : ReputationMgr) (entry : FactionEntry)
    (standing : Int32) (incremental : Bool) : Checked ReputationMgr :=
  let key := entry.repListID
  match mgr.factions[key]? with
  | none => pure mgr
  | some state => do
      let baseRep := player.getBaseReputation entry
      let wanted ← wantedStanding scaled state baseRep standing incremental
      let wanted := clampStanding wanted
      let own ← .int 32 (state.standing + baseRep)
      let oldRank := reputationToRank own
      let newRank := reputationToRank wanted
      let rest ← .int 32 (wanted - baseRep)
      let mgr := mgr.put key { state with standing := rest, needSend := true, needSave := true }
      let mgr ← mgr.setVisibleAt key
      let mgr := if newRank ≤ .hostile then mgr.change key (·.setAtWar true) else mgr
      let mgr :=
        if newRank ≤ oldRank then mgr else { mgr with sendFactionIncreased := true }
      mgr.updateRankCounters oldRank newRank

section

local instance four_neZero : NeZero 4 := ⟨by decide⟩

/-- `SetVisible` of a faction template. -/
def setVisibleOf (mgr : ReputationMgr) (faction : Nat) : Checked ReputationMgr :=
  if faction = 0 then pure mgr
  else
    match store.lookupEntry faction with
    | none => pure mgr
    | some entry =>
      -- a faction of the opposing team is never shown
      if entry.baseRepRaceMask 1 &&& player.raceMask ≠ 0 ∧
          (entry.baseRepValue 1).toInt = reputationBottom then pure mgr
      else mgr.setVisible entry

end

end

end ReputationMgr

/-- What the code does with the reputation of a player. A faction is given by its entry of the
store, and there is one saved row of a faction. -/
inductive Act (store : FactionStore) where
  | initializeFactions
  | loadFromDB (rows : List ReputationRow) (once : (rows.map (·.faction)).Nodup)
  | setOneFactionReputation (entry : FactionEntry) (known : entry ∈ store.entries)
      (standing : Int32) (incremental : Bool)
  | setVisible (entry : FactionEntry) (known : entry ∈ store.entries)
  | setVisibleOf (faction : Nat)
  | setAtWar (repListID : Nat) (on : Bool)
  | setInactive (repListID : Nat) (on : Bool)

/-- A realm as the reputation sees it. -/
structure World where
  store : FactionStore
  player : Player
  scaled : Int → Int

variable (w : World)

def ReputationMgr.perform (mgr : ReputationMgr) : Act w.store → Checked ReputationMgr
  | .initializeFactions => ReputationMgr.initializeFactions w.store w.player
  | .loadFromDB rows _ => ReputationMgr.loadFromDB w.store w.player rows
  | .setOneFactionReputation entry _ standing incremental =>
    mgr.setOneFactionReputation w.player w.scaled entry standing incremental
  | .setVisible entry _ => mgr.setVisible entry
  | .setVisibleOf faction => mgr.setVisibleOf w.store w.player faction
  | .setAtWar repListID on => pure (mgr.setAtWar repListID on)
  | .setInactive repListID on => pure (mgr.setInactive repListID on)

/-- A call from the state that the calls before left. -/
def step (mgr : ReputationMgr) (act : Act w.store) : ReputationMgr × Checked ReputationMgr :=
  ((mgr.perform w act).value.getD mgr, mgr.perform w act)

end OpenWoW.Reputation
