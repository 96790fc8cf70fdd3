import Mathlib.Logic.Function.Basic
import Mathlib.Data.Nat.Basic
import OpenWoW.Lib.OrderedMap
import OpenWoW.Loot

/-! Groups: member slots, subgroup counters, leadership, and the rolls for group loot. -/
namespace OpenWoW.Groups

open Looting (Loot LootItem Prototypes)

inductive RollVote
  | pass
  | need
  | greed
  | disenchant
  | notEmitedYet
  | notValid
  deriving DecidableEq, Repr

inductive RemoveMethod
  | default
  | kick
  | leave
  | kickLfg
  deriving DecidableEq, Repr

def maxGroupSize : Nat := 5
def maxRaidSize : Nat := 40
def maxRaidSubgroups : Nat := maxRaidSize / maxGroupSize
def maxRollType : UInt8 := 4

/-- The `std::map` of a roll, in the order of the keys. -/
abbrev PlayerVote := List (Nat × RollVote)

structure Roll where
  itemGUID : Nat
  itemid : Nat
  playerVote : PlayerVote
  totalPlayersRolling : UInt8
  totalNeed : UInt8
  totalGreed : UInt8
  totalPass : UInt8
  itemSlot : UInt8
  /-- The loot that the roll refers to; clearing the loot invalidates the reference. -/
  loot : Option Nat
  deriving DecidableEq, Repr

structure MemberSlot where
  guid : Nat
  group : Fin maxRaidSubgroups
  flags : UInt8
  deriving DecidableEq, Repr

structure Group where
  leaderGuid : Nat
  /-- A bit mask: 1 battleground, 2 raid, 8 dungeon finder. -/
  groupType : Nat
  bgGroup : Bool
  bfGroup : Bool
  lootThreshold : Nat
  memberSlots : List MemberSlot
  /-- The players whose objects refer to the group, the last one linked in front. -/
  memberMgr : List Nat
  subGroupsCounts : Option (Fin maxRaidSubgroups → UInt8)
  rollId : List Roll

/-- What the group code asks of the rest of the server. -/
structure World where
  protos : Prototypes
  player : Nat → Looting.Player
  /-- `ObjectAccessor::FindPlayer` finds the player. -/
  inWorld : Nat → Bool
  hasSession : Nat → Bool
  /-- The player is within the reward distance of the looted object. -/
  near : Nat → Bool
  passOnGroupLoot : Nat → Bool
  alive : Nat → Bool
  mapId : Nat → Nat
  /-- `LFGMgr::GetDungeonMapId` of the group. -/
  dungeonMapId : Nat
  /-- The number drawn for a player in the roll for an item guid. -/
  urand : Nat → Nat → Nat
  /-- `CanStoreNewItem` for a player and the item of a roll. -/
  canStore : Nat → Nat → Bool

inductive Outcome
  | stored (player count : Nat)
  | disenchanted (player : Nat)
  /-- The item can be looted again. -/
  | unblocked
  /-- The winner is not there, or nobody is: the item stays as it was. -/
  | nothing
  | lootGone
  deriving DecidableEq, Repr

/-- The best number so far, its player and his vote. -/
structure Winner where
  maxguid : Nat
  maxresul : Nat
  rollvote : RollVote
  deriving DecidableEq, Repr

namespace Roll

def isValid (roll : Roll) : Bool := roll.loot.isSome

def winner (urand : Nat → Nat) (takesPart : RollVote → Bool) (votes : PlayerVote) (first : Nat) :
    Winner :=
  votes.foldl
    (fun best entry =>
      if takesPart entry.2 && best.maxresul < urand entry.1 then
        ⟨entry.1, urand entry.1, entry.2⟩
      else best)
    ⟨first, 0, .notValid⟩

/-- `item->is_looted = true` with the counter, for the winner's item. -/
def setLooted (roll : Roll) (loot : Loot) : Loot :=
  let loot := loot.modifyItem (loot.masterSource roll.itemSlot.toNat) fun item =>
    { item with isLooted := true }
  { loot with unlootedCount := loot.unlootedCount - 1 }

def unblock (roll : Roll) (loot : Loot) : Loot :=
  loot.modifyItem (loot.masterSource roll.itemSlot.toNat) fun item =>
    { item with isBlocked := false }

def itemCount (roll : Roll) (loot : Loot) : Nat :=
  ((loot.item? (loot.masterSource roll.itemSlot.toNat)).map LootItem.count).getD 0

/-- The item goes into the winner's bags if there is room. -/
def storeFor (w : World) (roll : Roll) (loot : Loot) (player : Nat) : Loot × Outcome :=
  if w.canStore player roll.itemGUID then
    (roll.setLooted loot, .stored player (roll.itemCount loot))
  else (roll.unblock loot, .unblocked)

/-- `CountTheRoll` for a roll whose loot is still there. -/
def award (w : World) (roll : Roll) (loot : Loot) : Loot × Outcome :=
  if 0 < roll.totalNeed then
    match roll.playerVote with
    | [] => (loot, .nothing)
    | first :: _ =>
      let best := winner (w.urand roll.itemGUID) (· = .need) roll.playerVote first.1
      if w.inWorld best.maxguid && w.hasSession best.maxguid then
        roll.storeFor w loot best.maxguid
      else (loot, .nothing)
  else if 0 < roll.totalGreed then
    match roll.playerVote with
    | [] => (loot, .nothing)
    | first :: _ =>
      let best := winner (w.urand roll.itemGUID)
        (fun vote => vote = .greed || vote = .disenchant) roll.playerVote first.1
      if w.inWorld best.maxguid && w.hasSession best.maxguid then
        if best.rollvote = .greed then roll.storeFor w loot best.maxguid
        else if best.rollvote = .disenchant then
          (roll.setLooted loot, .disenchanted best.maxguid)
        else (loot, .nothing)
      else (loot, .nothing)
  else (roll.unblock loot, .unblocked)

/-- `CountTheRoll`, which every caller follows by dropping the roll from `RollId`. -/
def countTheRoll (w : World) (roll : Roll) (loots : Nat → Loot) : (Nat → Loot) × Outcome :=
  match roll.loot with
  | none => (loots, .lootGone)
  | some id =>
    let awarded := roll.award w (loots id)
    (Function.update loots id awarded.1, awarded.2)

end Roll

/-- What ended a roll. -/
inductive Cause
  | vote
  | departure
  | timer
  deriving DecidableEq, Repr

/-- A roll was counted, in the state it had then. -/
structure Counted where
  roll : Roll
  cause : Cause
  outcome : Outcome
  deriving DecidableEq, Repr

/-- The rolls of a group, the loots they are for, and the rolls counted so far. -/
structure Rolling where
  rolls : List Roll
  loots : Nat → Loot
  counted : List Counted

namespace Roll

/-- The effect of a choice on the totals and on the player's entry. -/
def choose (roll : Roll) (player : Nat) (choice : UInt8) : Roll :=
  if choice = 0 then
    { roll with
      totalPass := roll.totalPass + 1
      playerVote := OrderedMap.assign roll.playerVote player .pass }
  else if choice = 1 then
    { roll with
      totalNeed := roll.totalNeed + 1
      playerVote := OrderedMap.assign roll.playerVote player .need }
  else if choice = 2 then
    { roll with
      totalGreed := roll.totalGreed + 1
      playerVote := OrderedMap.assign roll.playerVote player .greed }
  else if choice = 3 then
    { roll with
      totalGreed := roll.totalGreed + 1
      playerVote := OrderedMap.assign roll.playerVote player .disenchant }
  else roll

/-- The totals are added as `int`. -/
def allVoted (roll : Roll) : Bool :=
  roll.totalPlayersRolling.toNat ≤
    roll.totalPass.toNat + roll.totalNeed.toNat + roll.totalGreed.toNat

/-- The totals without the entry of a leaving member. -/
def leave (roll : Roll) (guid : Nat) (vote : RollVote) : Roll :=
  { roll with
    totalGreed :=
      if vote = .greed ∨ vote = .disenchant then roll.totalGreed - 1 else roll.totalGreed
    totalNeed := if vote = .need then roll.totalNeed - 1 else roll.totalNeed
    totalPass := if vote = .pass then roll.totalPass - 1 else roll.totalPass
    totalPlayersRolling :=
      if vote ≠ .notValid then roll.totalPlayersRolling - 1 else roll.totalPlayersRolling
    playerVote := OrderedMap.erase roll.playerVote guid }

end Roll

namespace Rolling

/-- `GetRoll`, as the position in `RollId`. -/
def getRoll (rolls : List Roll) (guid : Nat) : Option Nat :=
  rolls.findIdx? fun roll => roll.itemGUID = guid && roll.isValid

def count (w : World) (cause : Cause) (i : Nat) (roll : Roll) (r : Rolling) : Rolling :=
  let done := roll.countTheRoll w r.loots
  { rolls := r.rolls.eraseIdx i
    loots := done.1
    counted := r.counted ++ [⟨roll, cause, done.2⟩] }

def lootEmpty (loots : Nat → Loot) (roll : Roll) : Bool :=
  roll.loot.any fun id => (loots id).items.isEmpty

def countRollVote (w : World) (cause : Cause) (player guid : Nat) (choice : UInt8)
    (r : Rolling) : Rolling :=
  match getRoll r.rolls guid with
  | none => r
  | some i =>
    match r.rolls[i]? with
    | none => r
    | some roll =>
      -- a player who joined the party after the roll began has no entry
      if (OrderedMap.value? roll.playerVote player).isNone then r
      else if lootEmpty r.loots roll then r
      else
        let voted := roll.choose player choice
        if voted.allVoted then { r with rolls := r.rolls.set i voted }.count w cause i voted
        else { r with rolls := r.rolls.set i voted }

/-- The loop of `RemoveMember` over the rolls, from position `i` on. -/
def leaveRolls (w : World) (guid : Nat) : Nat → Nat → Rolling → Rolling
  | 0, _, r => r
  | left + 1, i, r =>
    match r.rolls[i]? with
    | none => r
    | some roll =>
      match OrderedMap.value? roll.playerVote guid with
      | none => leaveRolls w guid left (i + 1) r
      | some vote =>
        leaveRolls w guid left (i + 1)
          ({ r with rolls := r.rolls.set i (roll.leave guid vote) }.countRollVote w
            .departure guid roll.itemGUID maxRollType)

/-- The loop of `EndRoll`: each roll for the loot is counted as it stands. -/
def endRoll (w : World) (id : Nat) : List Roll → Rolling → Rolling
  | [], r => r
  | roll :: rest, r =>
    if roll.loot = some id then
      let done := roll.countTheRoll w r.loots
      endRoll w id rest { r with loots := done.1, counted := r.counted ++ [⟨roll, .timer, done.2⟩] }
    else endRoll w id rest { r with rolls := r.rolls ++ [roll] }

end Rolling

/-- What `GroupLoot` does about an item. -/
inductive Decision
  | skip
  | underthreshold
  | roll (autoPass : Bool)
  deriving DecidableEq, Repr

def plainDecision (protos : Prototypes) (threshold : Nat) (item : LootItem) : Decision :=
  if item.freeforall then .skip
  else
    match protos item.itemid with
    | none => .skip
    | some proto => if threshold ≤ proto.quality then .roll true else .underthreshold

def questDecision (protos : Prototypes) (item : LootItem) : Decision :=
  if !item.followLootRules then .skip
  else
    match protos item.itemid with
    | none => .skip
    | some _ => .roll false

/-- The players of `memberMgr` who roll for the item. -/
def rollers (w : World) (members : List Nat) (item : LootItem) : List Nat :=
  members.filter fun guid =>
    w.hasSession guid && item.allowedForPlayer w.protos (w.player guid) && w.near guid

namespace Roll

def start (itemGUID itemid : Nat) (itemSlot : UInt8) (loot : Nat) : Roll where
  itemGUID := itemGUID
  itemid := itemid
  playerVote := []
  totalPlayersRolling := 0
  totalNeed := 0
  totalGreed := 0
  totalPass := 0
  itemSlot := itemSlot
  loot := some loot

def join (w : World) (autoPass : Bool) (roll : Roll) (guid : Nat) : Roll :=
  if autoPass && w.passOnGroupLoot guid then
    { roll with
      totalPlayersRolling := roll.totalPlayersRolling + 1
      playerVote := OrderedMap.insert guid .pass roll.playerVote
      totalPass := roll.totalPass + 1 }
  else
    { roll with
      totalPlayersRolling := roll.totalPlayersRolling + 1
      playerVote := OrderedMap.insert guid .notEmitedYet roll.playerVote }

end Roll

/-- The items after the loop, the rolls it started and the next item guid. -/
structure Started where
  items : List LootItem
  rolls : List Roll
  nextItemGuid : Nat

/-- The loop over `items` or `quest_items`, from `itemSlot` on. -/
def startRolls (w : World) (members : List Nat) (decide : LootItem → Decision) (loot : Nat) :
    UInt8 → Nat → List LootItem → Started
  | _, next, [] => ⟨[], [], next⟩
  | itemSlot, next, item :: items =>
    match decide item with
    | .skip =>
      let rest := startRolls w members decide loot (itemSlot + 1) next items
      { rest with items := item :: rest.items }
    | .underthreshold =>
      let rest := startRolls w members decide loot (itemSlot + 1) next items
      { rest with items := { item with isUnderthreshold := true } :: rest.items }
    | .roll autoPass =>
      let rest := startRolls w members decide loot (itemSlot + 1) (next + 1) items
      let roll := (rollers w members item).foldl (Roll.join w autoPass)
        (Roll.start next item.itemid itemSlot loot)
      if 0 < roll.totalPlayersRolling then
        { rest with
          items := { item with isBlocked := true } :: rest.items
          rolls := roll :: rest.rolls }
      else { rest with items := item :: rest.items }

namespace Group

def isLFGGroup (g : Group) : Bool := g.groupType.testBit 3

def isRaidGroup (g : Group) : Bool := g.groupType.testBit 1

def membersCount (g : Group) : Nat := g.memberSlots.length

def isFull (g : Group) : Bool :=
  if g.isRaidGroup then maxRaidSize ≤ g.membersCount else maxGroupSize ≤ g.membersCount

def isMember (g : Group) (guid : Nat) : Bool := g.memberSlots.any fun slot => slot.guid = guid

def isLeader (g : Group) (guid : Nat) : Bool := g.leaderGuid = guid

/-- `_getMemberWSlot`, as the position in the list. -/
def getMemberSlot (g : Group) (guid : Nat) : Option Nat :=
  g.memberSlots.findIdx? fun slot => slot.guid = guid

def isAssistant (g : Group) (guid : Nat) : Bool :=
  (g.memberSlots.find? fun slot => slot.guid = guid).any fun slot => slot.flags &&& 1 ≠ 0

def initRaidSubGroupsCounter (g : Group) : Group :=
  { g with
    subGroupsCounts := some <| g.memberSlots.foldl
      (fun counts slot => Function.update counts slot.group (counts slot.group + 1))
      (fun _ => 0) }

def initIfRaid (g : Group) : Group := if g.isRaidGroup then g.initRaidSubGroupsCounter else g

def subGroupCounterIncrease (g : Group) (subgroup : Fin maxRaidSubgroups) : Group :=
  { g with
    subGroupsCounts := g.subGroupsCounts.map fun counts =>
      Function.update counts subgroup (counts subgroup + 1) }

def subGroupCounterDecrease (g : Group) (subgroup : Fin maxRaidSubgroups) : Group :=
  { g with
    subGroupsCounts := g.subGroupsCounts.map fun counts =>
      Function.update counts subgroup (counts subgroup - 1) }

def hasFreeSlotSubGroup (g : Group) (subgroup : Fin maxRaidSubgroups) : Bool :=
  g.subGroupsCounts.any fun counts => (counts subgroup).toNat < maxGroupSize

/-- The references of the player objects. -/
def link (g : Group) (guid : Nat) : Group :=
  { g with memberMgr := guid :: g.memberMgr.erase guid }

def unlink (g : Group) (guid : Nat) : Group := { g with memberMgr := g.memberMgr.erase guid }

def firstFreeSubGroup (g : Group) : Option (Fin maxRaidSubgroups) :=
  match g.subGroupsCounts with
  | none => some ⟨0, by decide⟩
  | some counts =>
    (List.finRange maxRaidSubgroups).find? fun subgroup =>
      (counts subgroup).toNat < maxGroupSize

def addMember (g : Group) (guid : Nat) : Group :=
  match g.firstFreeSubGroup with
  | none => g
  | some subGroup =>
    let member : MemberSlot := ⟨guid, subGroup, 0⟩
    ({ g with memberSlots := g.memberSlots ++ [member] }.subGroupCounterIncrease subGroup).link guid

/-- The group object before `Create`. -/
def new (bgGroup bfGroup : Bool) : Group where
  leaderGuid := 0
  groupType := 0
  bgGroup := bgGroup
  bfGroup := bfGroup
  lootThreshold := 2
  memberSlots := []
  memberMgr := []
  subGroupsCounts := none
  rollId := []

def create (bgGroup bfGroup : Bool) (leader : Nat) : Group :=
  let g := { new bgGroup bfGroup with leaderGuid := leader }
  let g := if bgGroup || bfGroup then { g with groupType := 3 } else g
  g.initIfRaid.addMember leader

/-- `leaderExists`: the leader's character has a name. -/
def loadGroupFromDB (leaderExists : Bool) (leader lootThreshold groupType : Nat) : Group :=
  let g := { new false false with leaderGuid := leader }
  if !leaderExists then g
  else { g with lootThreshold := lootThreshold, groupType := groupType }.initIfRaid

def loadMemberFromDB (g : Group) (exists_ : Bool) (guid : Nat) (memberFlags : UInt8)
    (subgroup : Fin maxRaidSubgroups) : Group :=
  if !exists_ then g
  else
    let member : MemberSlot := ⟨guid, subgroup, memberFlags⟩
    { g with memberSlots := g.memberSlots ++ [member] }.subGroupCounterIncrease subgroup

def convertToLFG (g : Group) : Group := { g with groupType := g.groupType ||| 12 }

def convertToRaid (g : Group) : Group :=
  { g with groupType := g.groupType ||| 2 }.initRaidSubGroupsCounter

def convertToGroup (g : Group) : Group :=
  if 5 < g.membersCount then g else { g with groupType := 0, subGroupsCounts := none }

/-- The assistant flag of the new leader is taken away. -/
def changeLeader (w : World) (g : Group) (guid : Nat) : Group :=
  match g.getMemberSlot guid with
  | none => g
  | some i =>
    if !w.inWorld guid then g
    else
      { g with
        leaderGuid := guid
        memberSlots := g.memberSlots.modify i fun slot =>
          { slot with flags := slot.flags &&& ~~~1 } }

def changeMembersGroup (g : Group) (guid : Nat) (group : Fin maxRaidSubgroups) : Group :=
  if !g.isRaidGroup then g
  else
    match g.getMemberSlot guid with
    | none => g
    | some i =>
      match g.memberSlots[i]? with
      | none => g
      | some slot =>
        if slot.group = group then g
        else
          let moved : MemberSlot := { slot with group := group }
          ({ g with memberSlots := g.memberSlots.set i moved }.subGroupCounterIncrease
            group).subGroupCounterDecrease slot.group

/-- `HandleGroupChangeSubGroupOpcode`. -/
def changeSubGroup (g : Group) (sender guid : Nat) (groupNr : UInt8) : Group :=
  if small : groupNr.toNat < maxRaidSubgroups then
    if !g.isLeader sender && !g.isAssistant sender then g
    else if !g.hasFreeSlotSubGroup ⟨groupNr.toNat, small⟩ then g
    else g.changeMembersGroup guid ⟨groupNr.toNat, small⟩
  else g

/-- `RemoveMember` takes the player's reference away: by his object if he is in the world, by
`DelinkMember` in a regular group. -/
def delink (w : World) (g : Group) (guid : Nat) : Group :=
  if w.inWorld guid || !(g.bgGroup || g.bfGroup) then g.unlink guid else g

/-- Update of the slots and the counter. -/
def eraseSlot (g : Group) (guid : Nat) : Group :=
  match g.getMemberSlot guid with
  | none => g
  | some i =>
    match g.memberSlots[i]? with
    | none => g
    | some slot =>
      let g := g.subGroupCounterDecrease slot.group
      { g with memberSlots := g.memberSlots.eraseIdx i }

def pickLeader (w : World) (g : Group) (guid : Nat) : Group :=
  if g.leaderGuid = guid then
    match g.memberSlots.find? fun slot => w.inWorld slot.guid with
    | none => g
    | some slot => g.changeLeader w slot.guid
  else g

/-- The two tests after which `RemoveMember` disbands the group. -/
def disbands (w : World) (g : Group) : Bool :=
  (g.isLFGGroup && g.membersCount = 1 &&
    (w.dungeonMapId = 0 || !w.inWorld g.leaderGuid ||
      (w.alive g.leaderGuid && w.mapId g.leaderGuid ≠ w.dungeonMapId))) ||
  g.memberMgr.length < (if g.isLFGGroup || g.bgGroup then 1 else 2)

/-- `RemoveMember` goes on to remove a member, and does not disband the group at once. -/
def removes (g : Group) : Bool :=
  (if g.bgGroup || g.isLFGGroup || g.bfGroup then 1 else 2) < g.membersCount

end Group

structure State where
  /-- `none` after `Disband`. -/
  group : Option Group
  loots : Nat → Loot
  nextItemGuid : Nat

inductive Request
  | countRollVote (w : World) (player guid : Nat) (choice : UInt8)
  | endRoll (w : World) (loot : Nat)
  | groupLoot (w : World) (loot : Nat)
  | needBeforeGreed (w : World) (loot : Nat)
  | addMember (guid : Nat)
  | removeMember (w : World) (guid : Nat) (method : RemoveMethod)
  | changeLeader (w : World) (guid : Nat)
  | changeSubGroup (sender guid : Nat) (groupNr : UInt8)
  | convertToRaid
  | convertToGroup
  | convertToLFG
  | loadMemberFromDB (exists_ : Bool) (guid : Nat) (flags : UInt8)
      (subgroup : Fin maxRaidSubgroups)
  | setLootThreshold (threshold : Nat)
  | disband
  /-- A player object comes to refer to the group, or ceases to. -/
  | link (guid : Nat)
  | unlink (guid : Nat)
  /-- The loot is cleared and filled anew. -/
  | clearLoot (loot : Nat) (next : Loot)
  | loot (protos : Prototypes) (loot : Nat) (request : Looting.Request)

namespace State

def rolling (s : State) (g : Group) : Rolling := ⟨g.rollId, s.loots, []⟩

def finish (s : State) (g : Group) (r : Rolling) : State × List Counted :=
  ({ s with group := some { g with rollId := r.rolls }, loots := r.loots }, r.counted)

/-- `GroupLoot` and `NeedBeforeGreed`: first the items, then the quest items. -/
def startLoot (w : World) (s : State) (g : Group) (id : Nat) : State :=
  let loot := s.loots id
  let plain := startRolls w g.memberMgr (plainDecision w.protos g.lootThreshold) id 0
    s.nextItemGuid loot.items
  let quest := startRolls w g.memberMgr (questDecision w.protos) id
    (UInt8.ofNat loot.items.length) plain.nextItemGuid loot.questItems
  { group := some { g with rollId := g.rollId ++ plain.rolls ++ quest.rolls }
    loots := Function.update s.loots id
      { loot with items := plain.items, questItems := quest.items }
    nextItemGuid := quest.nextItemGuid }

/-- `NeedBeforeGreed` reads the template of every item without asking whether there is one. -/
def needBeforeGreed (w : World) (s : State) (g : Group) (id : Nat) : State :=
  if (s.loots id).items.all fun item => item.freeforall || (w.protos item.itemid).isSome then
    s.startLoot w g id
  else s

def removeMember (w : World) (s : State) (g : Group) (guid : Nat) (method : RemoveMethod) :
    State × List Counted :=
  if g.isLFGGroup && method = .kick then (s, [])
  else if g.removes then
    let left := (s.rolling g).leaveRolls w guid g.rollId.length 0
    let g' := (({ g.delink w guid with rollId := left.rolls }).eraseSlot guid).pickLeader w guid
    ({ s with
        group := if g'.disbands w then none else some g'
        loots := left.loots },
      left.counted)
  else ({ s with group := none }, [])

def update (s : State) (f : Group → Group) : State × List Counted :=
  ({ s with group := s.group.map f }, [])

end State

def Group.invalidate (g : Group) (loot : Nat) : Group :=
  { g with
    rollId := g.rollId.map fun roll =>
      if roll.loot = some loot then { roll with loot := none } else roll }

def step (s : State) : Request → State × List Counted
  | .clearLoot loot next =>
    ({ s with
        group := s.group.map fun g => g.invalidate loot
        loots := Function.update s.loots loot next }, [])
  | .loot protos id request =>
    ({ s with
        loots := Function.update s.loots id (Looting.step protos (s.loots id) request).1 }, [])
  | .countRollVote w player guid choice =>
    match s.group with
    | none => (s, [])
    | some g => s.finish g ((s.rolling g).countRollVote w .vote player guid choice)
  | .endRoll w id =>
    match s.group with
    | none => (s, [])
    | some g => s.finish g (Rolling.endRoll w id g.rollId ⟨[], s.loots, []⟩)
  | .groupLoot w id =>
    match s.group with
    | none => (s, [])
    | some g => (s.startLoot w g id, [])
  | .needBeforeGreed w id =>
    match s.group with
    | none => (s, [])
    | some g => (s.needBeforeGreed w g id, [])
  | .removeMember w guid method =>
    match s.group with
    | none => (s, [])
    | some g => s.removeMember w g guid method
  | .disband => ({ s with group := none }, [])
  | .addMember guid => s.update fun g => g.addMember guid
  | .changeLeader w guid => s.update fun g => g.changeLeader w guid
  | .changeSubGroup sender guid groupNr => s.update fun g => g.changeSubGroup sender guid groupNr
  | .convertToRaid => s.update Group.convertToRaid
  | .convertToGroup => s.update Group.convertToGroup
  | .convertToLFG => s.update Group.convertToLFG
  | .loadMemberFromDB exists_ guid flags subgroup =>
    s.update fun g => g.loadMemberFromDB exists_ guid flags subgroup
  | .setLootThreshold threshold => s.update fun g => { g with lootThreshold := threshold }
  | .link guid => s.update fun g => g.link guid
  | .unlink guid => s.update fun g => g.unlink guid

/-- Everybody is there, and nobody passes on everything. -/
def calmWorld : World where
  protos := fun _ => some { Looting.plainPrototype with quality := 2, ignoreQuestStatus := true }
  player := fun guid => Looting.questPlayer guid none []
  inWorld := fun _ => true
  hasSession := fun _ => true
  near := fun _ => true
  passOnGroupLoot := fun _ => false
  alive := fun _ => true
  mapId := fun _ => 0
  dungeonMapId := 0
  urand := fun _ _ => 50
  canStore := fun _ _ => true

end OpenWoW.Groups
