import Mathlib.Data.Finset.Max
import OpenWoW.Money

/-! The queue of players for a battleground or an arena. -/
namespace OpenWoW.Battlegrounds

inductive Team where
  | alliance | horde
  deriving DecidableEq, Repr

def Team.other : Team → Team
  | alliance => horde
  | horde => alliance

abbrev maxBattlegroundBrackets : Nat := 16

/-- Premade groups and rated teams have lists of their own. -/
inductive QueueKind where
  | premade | normal
  deriving DecidableEq, Repr

/-- A list of `m_QueuedGroups`: a bracket and a `BattlegroundQueueGroupTypes`. -/
structure Place where
  bracket : Fin maxBattlegroundBrackets
  kind : QueueKind
  team : Team
  deriving DecidableEq, Repr

structure PlayerQueueInfo where
  lastOnlineTime : UInt32
  /-- The address of the group. -/
  groupInfo : Nat
  deriving DecidableEq, Repr

structure GroupQueueInfo where
  /-- The keys of `Players`; each points to the player's entry of `m_QueuedPlayers`. -/
  players : Finset Nat
  team : Team
  bgTypeId : Nat
  isRated : Bool
  arenaType : Nat
  arenaTeamId : Nat
  joinTime : UInt32
  removeInviteTime : UInt32
  isInvitedToBGInstanceGUID : Nat
  arenaTeamRating : UInt32
  arenaMatchmakerRating : UInt32
  opponentsTeamRating : UInt32
  opponentsMatchmakerRating : UInt32

structure SelectionPool where
  selectedGroups : List Nat
  playerCount : Nat

/-- A queue, with the groups by their addresses. -/
structure Queue where
  queuedPlayers : Nat → Option PlayerQueueInfo
  queuedGroups : Place → List Nat
  selectionPools : Team → SelectionPool
  groups : Nat → Option GroupQueueInfo
  nextGroup : Nat

namespace SelectionPool

def init : SelectionPool := ⟨[], 0⟩

def getPlayerCount (pool : SelectionPool) : Nat := pool.playerCount

/-- `AddGroup`, for a group that is as large and invited as its address says. -/
def addGroup (size : Nat → Nat) (invited : Nat → Bool) (pool : SelectionPool) (ginfo : Nat)
    (desiredCount : Nat) : SelectionPool × Bool :=
  if invited ginfo = false ∧ pool.playerCount + size ginfo ≤ desiredCount then
    (⟨pool.selectedGroups ++ [ginfo], pool.playerCount + size ginfo⟩, true)
  else (pool, pool.playerCount < desiredCount)

/-- The position of the group to kick: the last one of about the size, or else a largest one. -/
def groupToKick (size : Nat → Nat) (wanted : Nat) (selectedGroups : List Nat) : Nat :=
  (selectedGroups.zipIdx.foldl (fun (kick : Nat × Bool) entry =>
    if (toInt32 ((size entry.1 : Int) - wanted)).natAbs ≤ 1 then (entry.2, true)
    else if kick.2 = false ∧ (selectedGroups[kick.1]?.elim 0 size) ≤ size entry.1 then
      (entry.2, false)
    else kick) (0, false)).1

def kickGroup (size : Nat → Nat) (pool : SelectionPool) (wanted : Nat) : SelectionPool × Bool :=
  if pool.playerCount ≠ 0 then
    let position := groupToKick size wanted pool.selectedGroups
    let kicked := pool.selectedGroups[position]?.elim 0 size
    (⟨pool.selectedGroups.eraseIdx position, pool.playerCount - kicked⟩,
      !(kicked ≤ toUInt32 (wanted + 1)))
  else (pool, true)

/-- Groups are added in turn until one is refused; what is left of the list. -/
def addWhile (size : Nat → Nat) (invited : Nat → Bool) (desiredCount : Nat) :
    SelectionPool → List Nat → SelectionPool × List Nat
  | pool, [] => (pool, [])
  | pool, ginfo :: rest =>
    let added := pool.addGroup size invited ginfo desiredCount
    if added.2 then addWhile size invited desiredCount added.1 rest else (added.1, ginfo :: rest)

/-- Groups that are not invited are added in turn until one is refused. -/
def addUninvited (size : Nat → Nat) (invited : Nat → Bool) (desiredCount : Nat) :
    SelectionPool → List Nat → SelectionPool
  | pool, [] => pool
  | pool, ginfo :: rest =>
    if invited ginfo then addUninvited size invited desiredCount pool rest
    else
      let added := pool.addGroup size invited ginfo desiredCount
      if added.2 then addUninvited size invited desiredCount added.1 rest else added.1

def addUntil (size : Nat → Nat) (invited : Nat → Bool) (maxPlayers minPlayers : Nat) :
    SelectionPool → List Nat → SelectionPool × List Nat
  | pool, [] => (pool, [])
  | pool, ginfo :: rest =>
    if invited ginfo then addUntil size invited maxPlayers minPlayers pool rest
    else
      let added := pool.addGroup size invited ginfo maxPlayers
      if minPlayers ≤ added.1.playerCount then (added.1, ginfo :: rest)
      else addUntil size invited maxPlayers minPlayers added.1 rest

end SelectionPool

/-- The pools of a filling, with the groups of each side that were not looked at yet. -/
structure Filling where
  ali : SelectionPool
  horde : SelectionPool
  aliRest : List Nat
  hordeRest : List Nat

namespace Filling

def diffAli (f : Filling) (aliFree : Int) : Int := aliFree - toInt32 f.ali.playerCount

def diffHorde (f : Filling) (hordeFree : Int) : Int := hordeFree - toInt32 f.horde.playerCount

variable (size : Nat → Nat) (invited : Nat → Bool) (aliFree hordeFree : Int)

/-- A turn for the alliance, and whether the loop goes on. -/
def kickAli (f : Filling) : Filling × Bool :=
  let diffAli := f.diffAli aliFree
  let diffHorde := f.diffHorde hordeFree
  let kicked := f.ali.kickGroup size (toUInt32 (diffHorde - diffAli))
  let f : Filling := { f with ali := kicked.1 }
  let f : Filling := if kicked.2 then
      let added := f.ali.addWhile size invited
        (if diffHorde ≤ aliFree then toUInt32 (aliFree - diffHorde) else 0) f.aliRest
      { f with ali := added.1, aliRest := added.2 }
    else f
  if f.ali.playerCount = 0 then
    if aliFree ≤ diffHorde + 1 then (f, false)
    else ({ f with horde := (f.horde.kickGroup size (toUInt32 (diffHorde - diffAli))).1 }, true)
  else (f, true)

def kickHorde (f : Filling) : Filling × Bool :=
  let diffAli := f.diffAli aliFree
  let diffHorde := f.diffHorde hordeFree
  let kicked := f.horde.kickGroup size (toUInt32 (diffAli - diffHorde))
  let f : Filling := { f with horde := kicked.1 }
  let f : Filling := if kicked.2 then
      let added := f.horde.addWhile size invited
        (if diffAli ≤ hordeFree then toUInt32 (hordeFree - diffAli) else 0) f.hordeRest
      { f with horde := added.1, hordeRest := added.2 }
    else f
  if f.horde.playerCount = 0 then
    if hordeFree ≤ diffAli + 1 then (f, false)
    else ({ f with ali := (f.ali.kickGroup size (toUInt32 (diffAli - diffHorde))).1 }, true)
  else (f, true)

/-- What is left to do: each turn that goes on kicks a group or adds one. -/
def work (f : Filling) : Nat :=
  2 * (f.aliRest.length + f.hordeRest.length) +
    (f.ali.selectedGroups.length + f.horde.selectedGroups.length)

def balance (f : Filling) : Filling :=
  if 1 < (f.diffAli aliFree - f.diffHorde hordeFree).natAbs ∧
      (0 < f.horde.playerCount ∨ 0 < f.ali.playerCount) then
    let turn := if f.diffAli aliFree < f.diffHorde hordeFree then
        kickAli size invited aliFree hordeFree f
      else kickHorde size invited aliFree hordeFree f
    if turn.2 then
      if _less : turn.1.work < f.work then balance turn.1 else turn.1
    else turn.1
  else f
termination_by f.work

end Filling

abbrev inviteAcceptWaitTime : UInt32 := 90000

namespace Queue

def new : Queue where
  queuedPlayers := fun _ => none
  queuedGroups := fun _ => []
  selectionPools := fun _ => .init
  groups := fun _ => none
  nextGroup := 0

variable (q : Queue)

/-- `Players.size()` of the group at an address. -/
def size (ginfo : Nat) : Nat := (q.groups ginfo).elim 0 (·.players.card)

/-- The group at an address is invited. -/
def invited (ginfo : Nat) : Bool :=
  (q.groups ginfo).any (·.isInvitedToBGInstanceGUID != 0)

def modifyGroup (ginfo : Nat) (change : GroupQueueInfo → GroupQueueInfo) : Queue :=
  { q with groups := Function.update q.groups ginfo ((q.groups ginfo).map change) }

def setPool (team : Team) (pool : SelectionPool) : Queue :=
  { q with selectionPools := Function.update q.selectionPools team pool }

def setPools (ali horde : SelectionPool) : Queue :=
  { q with selectionPools := fun | .alliance => ali | .horde => horde }

def initPools : Queue := q.setPools .init .init

def setList (place : Place) (list : List Nat) : Queue :=
  { q with queuedGroups := Function.update q.queuedGroups place list }

/-- `push_front` to a list. -/
def pushFront (place : Place) (ginfo : Nat) : Queue :=
  q.setList place (ginfo :: q.queuedGroups place)

structure Joining where
  /-- The guids of the players; a leader without a group joins alone. -/
  members : List Nat
  team : Team
  bgTypeId : Nat
  bracketId : Fin maxBattlegroundBrackets
  arenaType : Nat
  isRated : Bool
  isPremade : Bool
  arenaRating : UInt32
  matchmakerRating : UInt32
  arenaTeamId : Nat
  now : UInt32

def addGroup (joining : Joining) : Queue :=
  let ginfo := q.nextGroup
  let info : GroupQueueInfo :=
    { players := joining.members.toFinset
      team := joining.team
      bgTypeId := joining.bgTypeId
      isRated := joining.isRated
      arenaType := joining.arenaType
      arenaTeamId := joining.arenaTeamId
      joinTime := joining.now
      removeInviteTime := 0
      isInvitedToBGInstanceGUID := 0
      arenaTeamRating := joining.arenaRating
      arenaMatchmakerRating := joining.matchmakerRating
      opponentsTeamRating := 0
      opponentsMatchmakerRating := 0 }
  let kind := if !joining.isRated && !joining.isPremade then .normal else .premade
  let place : Place := ⟨joining.bracketId, kind, joining.team⟩
  { q with
    queuedPlayers := joining.members.foldl (fun players guid =>
      Function.update players guid (some ⟨joining.now, ginfo⟩)) q.queuedPlayers
    queuedGroups := Function.update q.queuedGroups place (q.queuedGroups place ++ [ginfo])
    groups := Function.update q.groups ginfo (some info)
    nextGroup := ginfo + 1 }

/-- The search of `RemovePlayer` for a group: the brackets from the highest one, the premade list of the
faction before its normal one. -/
def findGroup (team : Team) (ginfo : Nat) : Option Place :=
  (List.finRange maxBattlegroundBrackets).reverse.findSome? fun bracket =>
    [QueueKind.premade, .normal].findSome? fun kind =>
      if ginfo ∈ q.queuedGroups ⟨bracket, kind, team⟩ then some ⟨bracket, kind, team⟩ else none

/-- What one call of `RemovePlayer` did. -/
inductive Removal where
  | notQueued | notFound
  /-- The player is out; the next one to go is named. -/
  | removed (next : Option Nat)
  deriving DecidableEq, Repr

/-- `RemovePlayer` up to where it calls itself. -/
def removeOne (guid : Nat) : Queue × Removal :=
  match q.queuedPlayers guid with
  | none => (q, .notQueued)
  | some itr =>
    match q.groups itr.groupInfo with
    | none => (q, .notFound)
    | some group =>
      match q.findGroup group.team itr.groupInfo with
      | none => (q, .notFound)
      | some place =>
        let left := { group with players := group.players.erase guid }
        let out := { q with queuedPlayers := Function.update q.queuedPlayers guid none }
        if alone : left.players = ∅ then
          ({ out with
            queuedGroups := Function.update q.queuedGroups place
              ((q.queuedGroups place).erase itr.groupInfo)
            groups := Function.update q.groups itr.groupInfo none }, .removed none)
        else
          ({ out with groups := Function.update q.groups itr.groupInfo (some left) },
            .removed (if group.isInvitedToBGInstanceGUID = 0 ∧ group.isRated = true then
              some (left.players.min' (Finset.nonempty_iff_ne_empty.mpr alone)) else none))

/-- `RemovePlayer` and the calls that it makes, as many as there are players in the group. -/
def removeAll : Nat → Queue → Nat → Queue × Removal
  | 0, q, guid => (q, .removed (some guid))
  | calls + 1, q, guid =>
    match q.removeOne guid with
    | (after, .removed (some next)) => removeAll calls after next
    | done => done

def sizeAround (guid : Nat) : Nat := (q.queuedPlayers guid).elim 0 fun info => q.size info.groupInfo

def removePlayer (guid : Nat) : Queue × Removal := removeAll (q.sizeAround guid + 1) q guid

/-- `InviteGroupToBG`, without what it tells the players and the battleground. -/
def inviteGroupToBG (ginfo instanceId : Nat) (side : Team) (now : UInt32) : Queue :=
  q.modifyGroup ginfo fun group =>
    if group.isInvitedToBGInstanceGUID = 0 then
      { group with team := side, isInvitedToBGInstanceGUID := instanceId,
                   removeInviteTime := now + inviteAcceptWaitTime }
    else { group with team := side }

/-- The invitations of a pool, each group for its own side. -/
def invitePool (team : Team) (instanceId : Nat) (now : UInt32) : Queue :=
  (q.selectionPools team).selectedGroups.foldl (fun q ginfo =>
    match q.groups ginfo with
    | some group => q.inviteGroupToBG ginfo instanceId group.team now
    | none => q) q

def invitePools (instanceId : Nat) (now : UInt32) : Queue :=
  (q.invitePool .alliance instanceId now).invitePool .horde instanceId now

structure FreeSlots where
  instanceId : Nat
  isRated : Bool
  typeId : Nat
  bracketId : Fin maxBattlegroundBrackets
  /-- The status is after waiting in the queue and before waiting to leave. -/
  isOpen : Bool
  freeSlotsForTeam : Team → Int

structure Template where
  minPlayersPerTeam : Nat
  maxPlayersPerTeam : Nat
  isArena : Bool
  isBattleground : Bool

/-- What an update is called with and what it finds around the queue. -/
structure Update where
  bgTypeId : Nat
  bracketId : Fin maxBattlegroundBrackets
  arenaType : Nat
  isRated : Bool
  arenaRating : UInt32
  now : UInt32
  freeSlotQueue : List FreeSlots
  battlegroundTemplate : Option Template
  hasBracketEntry : Bool
  invitationType : Nat
  premadeGroupWaitForMatch : UInt32
  isTesting : Bool
  isArenaTesting : Bool
  maxRatingDifference : UInt32
  ratingDiscardTimer : UInt32
  /-- The instances that `CreateNewBattleground` makes, for a premade match and for another one. -/
  newPremade : Option Nat
  newMatch : Option Nat

def fillPlayersToBG (invitationType : Nat) (bg : FreeSlots)
    (bracketId : Fin maxBattlegroundBrackets) : Queue :=
  let hordeFree := bg.freeSlotsForTeam .horde
  let aliFree := bg.freeSlotsForTeam .alliance
  let ali := (q.selectionPools .alliance).addWhile q.size q.invited (toUInt32 aliFree)
    (q.queuedGroups ⟨bracketId, .normal, .alliance⟩)
  let horde := (q.selectionPools .horde).addWhile q.size q.invited (toUInt32 hordeFree)
    (q.queuedGroups ⟨bracketId, .normal, .horde⟩)
  if invitationType = 0 then q.setPools ali.1 horde.1
  else
    let filling := Filling.balance q.size q.invited aliFree hordeFree
      ⟨ali.1, horde.1, ali.2, horde.2⟩
    q.setPools filling.ali filling.horde

/-- A premade group that waited too long, or has become too small, moves to the normal list of its
side. -/
def releasePremade (bracketId : Fin maxBattlegroundBrackets) (minPlayersPerTeam : Nat)
    (timeBefore : UInt32) (team : Team) : Queue :=
  match q.queuedGroups ⟨bracketId, .premade, team⟩ with
  | [] => q
  | ginfo :: rest =>
    match q.groups ginfo with
    | none => q
    | some group =>
      if group.isInvitedToBGInstanceGUID = 0 ∧
          (group.joinTime < timeBefore ∨ group.players.card < minPlayersPerTeam) then
        (q.pushFront ⟨bracketId, .normal, team⟩ ginfo).setList ⟨bracketId, .premade, team⟩ rest
      else q

def checkPremadeMatch (update : Update) (minPlayersPerTeam maxPlayersPerTeam : Nat) :
    Queue × Bool :=
  let bracketId := update.bracketId
  let aliGroup := (q.queuedGroups ⟨bracketId, .premade, .alliance⟩).find? (!q.invited ·)
  let hordeGroup := (q.queuedGroups ⟨bracketId, .premade, .horde⟩).find? (!q.invited ·)
  match aliGroup, hordeGroup with
  | some aliGroup, some hordeGroup =>
    let ali := ((q.selectionPools .alliance).addGroup q.size q.invited aliGroup
      maxPlayersPerTeam).1
    let horde := ((q.selectionPools .horde).addGroup q.size q.invited hordeGroup
      maxPlayersPerTeam).1
    let maxPlayers := min ali.getPlayerCount horde.getPlayerCount
    (q.setPools
      (ali.addUninvited q.size q.invited maxPlayers
        (q.queuedGroups ⟨bracketId, .normal, .alliance⟩))
      (horde.addUninvited q.size q.invited maxPlayers
        (q.queuedGroups ⟨bracketId, .normal, .horde⟩)), true)
  | _, _ =>
    let timeBefore := update.now - update.premadeGroupWaitForMatch
    ((q.releasePremade bracketId minPlayersPerTeam timeBefore .alliance).releasePremade
      bracketId minPlayersPerTeam timeBefore .horde, false)

/-- The difference of the pools is more than two players. -/
def unbalanced (ali horde : SelectionPool) : Bool :=
  2 < (toInt32 ((horde.getPlayerCount : Int) - ali.getPlayerCount)).natAbs

def checkNormalMatch (update : Update) (minPlayers maxPlayers : Nat) : Queue × Bool :=
  let list := fun team => q.queuedGroups ⟨update.bracketId, .normal, team⟩
  let ali := (q.selectionPools .alliance).addUntil q.size q.invited maxPlayers minPlayers
    (list .alliance)
  let horde := (q.selectionPools .horde).addUntil q.size q.invited maxPlayers minPlayers
    (list .horde)
  let enough := fun (ali horde : SelectionPool) =>
    (update.isTesting && (0 < ali.getPlayerCount || 0 < horde.getPlayerCount)) ||
      (minPlayers ≤ ali.getPlayerCount && minPlayers ≤ horde.getPlayerCount)
  if update.invitationType ≠ 0 ∧ minPlayers ≤ horde.1.getPlayerCount ∧
      minPlayers ≤ ali.1.getPlayerCount then
    let pools :=
      if horde.1.getPlayerCount < ali.1.getPlayerCount then
        (ali.1, horde.1.addUninvited q.size q.invited ali.1.getPlayerCount horde.2.tail)
      else
        (ali.1.addUninvited q.size q.invited horde.1.getPlayerCount ali.2.tail, horde.1)
    (q.setPools pools.1 pools.2, !unbalanced pools.1 pools.2 && enough pools.1 pools.2)
  else (q.setPools ali.1 horde.1, enough ali.1 horde.1)

/-- The groups of a list after one of them. -/
def after (ginfo : Nat) (list : List Nat) : List Nat := (list.dropWhile (· ≠ ginfo)).tail

/-- A list without a group that stands after another one. -/
def eraseAfter (ginfo moved : Nat) (list : List Nat) : List Nat :=
  list.takeWhile (· ≠ ginfo) ++
    match list.dropWhile (· ≠ ginfo) with
    | [] => []
    | marker :: rest => marker :: rest.erase moved

/-- A group changes its team and moves to the other side's list. -/
def switchTeam (bracketId : Fin maxBattlegroundBrackets) (ginfo : Nat) (otherTeam : Team)
    (moved : Nat) : Queue :=
  let q := (q.modifyGroup moved ({ · with team := otherTeam })).pushFront
    ⟨bracketId, .normal, otherTeam⟩ moved
  q.setList ⟨bracketId, .normal, otherTeam.other⟩
    (eraseAfter ginfo moved (q.queuedGroups ⟨bracketId, .normal, otherTeam.other⟩))

/-- `CheckSkirmishForSameFaction`; the last group of an empty pool is not defined. -/
def checkSkirmishForSameFaction (bracketId : Fin maxBattlegroundBrackets)
    (minPlayersPerTeam : Nat) : Option (Queue × Bool) :=
  if (q.selectionPools .alliance).getPlayerCount < minPlayersPerTeam ∧
      (q.selectionPools .horde).getPlayerCount < minPlayersPerTeam then some (q, false)
  else
    let teamIndex := if (q.selectionPools .horde).getPlayerCount = minPlayersPerTeam then Team.horde
      else .alliance
    let otherTeam := teamIndex.other
    let q := q.setPool otherTeam .init
    match (q.selectionPools teamIndex).selectedGroups.getLast? with
    | none => none
    | some ginfo =>
      let list := q.queuedGroups ⟨bracketId, .normal, teamIndex⟩
      if ginfo ∉ list then some (q, false)
      else
        let pool := (q.selectionPools otherTeam).addUninvited q.size q.invited minPlayersPerTeam
          (after ginfo list)
        let q := q.setPool otherTeam pool
        if pool.getPlayerCount ≠ minPlayersPerTeam then some (q, false)
        else some (pool.selectedGroups.foldl (fun q moved =>
          q.switchTeam bracketId ginfo otherTeam moved) q, true)

def canPlay (arenaMinRating arenaMaxRating discardTime : UInt32) (ginfo : Nat) : Bool :=
  (q.groups ginfo).any fun group => group.isInvitedToBGInstanceGUID = 0 &&
    ((arenaMinRating ≤ group.arenaMatchmakerRating &&
      group.arenaMatchmakerRating ≤ arenaMaxRating) || group.joinTime < discardTime)

/-- The rating that an update without one works with; none when both lists are empty. -/
def waitingRating (bracketId : Fin maxBattlegroundBrackets) : Option UInt32 :=
  let front := fun team => (q.queuedGroups ⟨bracketId, .premade, team⟩).head?.bind q.groups
  match front .alliance, front .horde with
  | some front1, some front2 =>
    some (if front1.joinTime < front2.joinTime then front1.arenaMatchmakerRating
      else front2.arenaMatchmakerRating)
  | some front1, none => some front1.arenaMatchmakerRating
  | none, some front2 => some front2.arenaMatchmakerRating
  | none, none => none

/-- The second team of a list: one of another arena team from where the first one stands. -/
def findOpponent (canPlay : Nat → Bool) (first : Nat) (list : List Nat) : Option Nat :=
  (list.dropWhile (· ≠ first)).find? fun ginfo => canPlay ginfo &&
    ((q.groups first).map (·.arenaTeamId)) != ((q.groups ginfo).map (·.arenaTeamId))

/-- The two teams of a rated match. -/
def findTeams (bracketId : Fin maxBattlegroundBrackets) (canPlay : Nat → Bool) :
    Option (Nat × Nat) :=
  let list := fun team => q.queuedGroups ⟨bracketId, .premade, team⟩
  match (list .alliance).find? canPlay, (list .horde).find? canPlay with
  | some aTeam, some hTeam => some (aTeam, hTeam)
  | some first, none => (q.findOpponent canPlay first (list .alliance)).map (first, ·)
  | none, some first => (q.findOpponent canPlay first (list .horde)).map (first, ·)
  | none, none => none

def moveRated (bracketId : Fin maxBattlegroundBrackets) (ginfo : Nat) (side : Team) : Queue :=
  match q.groups ginfo with
  | none => q
  | some group =>
    if group.team ≠ side then
      let q := q.pushFront ⟨bracketId, .premade, side⟩ ginfo
      q.setList ⟨bracketId, .premade, side.other⟩
        ((q.queuedGroups ⟨bracketId, .premade, side.other⟩).erase ginfo)
    else q

/-- Two teams get each other's ratings, move to the sides they play for and are invited. -/
def startRated (bracketId : Fin maxBattlegroundBrackets) (aTeam hTeam instanceId : Nat)
    (now : UInt32) : Queue :=
  match q.groups aTeam, q.groups hTeam with
  | some a, some h =>
    let q := q.modifyGroup aTeam fun group =>
      { group with opponentsTeamRating := h.arenaTeamRating,
                   opponentsMatchmakerRating := h.arenaMatchmakerRating }
    let q := q.modifyGroup hTeam fun group =>
      { group with opponentsTeamRating := a.arenaTeamRating,
                   opponentsMatchmakerRating := a.arenaMatchmakerRating }
    let q := (q.moveRated bracketId aTeam .alliance).moveRated bracketId hTeam .horde
    (q.inviteGroupToBG aTeam instanceId .alliance now).inviteGroupToBG hTeam instanceId .horde now
  | _, _ => q

def updateRated (update : Update) : Queue :=
  match (if update.arenaRating = 0 then q.waitingRating update.bracketId
      else some update.arenaRating) with
  | none => q
  | some arenaRating =>
    let arenaMinRating := if arenaRating ≤ update.maxRatingDifference then 0
      else arenaRating - update.maxRatingDifference
    let arenaMaxRating := arenaRating + update.maxRatingDifference
    let discardTime := update.now - update.ratingDiscardTimer
    match q.findTeams update.bracketId (q.canPlay arenaMinRating arenaMaxRating discardTime),
      update.newMatch with
    | some (aTeam, hTeam), some instanceId =>
      q.startRated update.bracketId aTeam hTeam instanceId update.now
    | _, _ => q

/-- The battlegrounds with free slots are filled. -/
def fillOpen (update : Update) : Queue :=
  update.freeSlotQueue.foldl (fun q bg =>
    if !bg.isRated && bg.typeId = update.bgTypeId && bg.bracketId = update.bracketId && bg.isOpen
    then (q.initPools.fillPlayersToBG update.invitationType bg update.bracketId).invitePools
      bg.instanceId update.now
    else q) q

/-- The part of an update for premade groups: the queue goes on, or the match was not made. -/
def updatePremade (update : Update) (minPlayersPerTeam maxPlayersPerTeam : Nat) : Queue × Bool :=
  let checked := q.checkPremadeMatch update minPlayersPerTeam maxPlayersPerTeam
  if checked.2 then
    match update.newPremade with
    | none => (checked.1, false)
    | some instanceId => ((checked.1.invitePools instanceId update.now).initPools, true)
  else (checked.1, true)

/-- The part of an update for battlegrounds and skirmishes. -/
def updateNormal (update : Update) (template : Template)
    (minPlayersPerTeam maxPlayersPerTeam : Nat) : Option Queue :=
  let invite := fun (checked : Queue × Bool) =>
    if checked.2 then
      (update.newMatch.elim checked.1 fun instanceId =>
        checked.1.invitePools instanceId update.now)
    else checked.1
  let checked := q.checkNormalMatch update minPlayersPerTeam maxPlayersPerTeam
  if !checked.2 && template.isArena then
    (checked.1.checkSkirmishForSameFaction update.bracketId minPlayersPerTeam).map invite
  else some (invite checked)

def battlegroundQueueUpdate (update : Update) : Option Queue :=
  if [QueueKind.premade, .normal].all fun kind => [Team.alliance, .horde].all fun team =>
      (q.queuedGroups ⟨update.bracketId, kind, team⟩).isEmpty then some q
  else
    let q := q.fillOpen update
    match update.battlegroundTemplate with
    | none => some q
    | some template =>
      if !update.hasBracketEntry then some q
      else
        let maxPlayersPerTeam := if template.isArena then update.arenaType
          else template.maxPlayersPerTeam
        let minPlayersPerTeam :=
          if template.isArena then (if update.isArenaTesting then 1 else update.arenaType)
          else if update.isTesting then 1 else template.minPlayersPerTeam
        let q := q.initPools
        let premade := if template.isBattleground then
            q.updatePremade update minPlayersPerTeam maxPlayersPerTeam
          else (q, true)
        if !premade.2 then some premade.1
        else if !update.isRated then
          premade.1.updateNormal update template minPlayersPerTeam maxPlayersPerTeam
        else if template.isArena then some (premade.1.updateRated update)
        else some premade.1

end Queue

end OpenWoW.Battlegrounds
