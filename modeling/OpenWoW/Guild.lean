import Mathlib.Logic.Function.Basic
import Mathlib.Data.List.Basic
import OpenWoW.Money

/-! Guilds: ranks, members, the gold of the bank and what members may take of it in a day. -/
namespace OpenWoW.Guilds

abbrev guildBankMaxTabs : Nat := 8
abbrev guildRanksMinCount : Nat := 2
abbrev guildRanksMaxCount : Nat := 10
abbrev guildRankNone : Nat := 0xFF
abbrev tabUndefined : Nat := 0xFF

abbrev grGuildmaster : Nat := 0
abbrev grInitiate : Nat := 4

def grRightEmpty : Nat := 0x00000040
def grRightGchatListenSpeak : Nat := 0x00000043
def grRightPromote : Nat := 0x000000C0
def grRightDemote : Nat := 0x00000140
def grRightWithdraw : Nat := 0x000C0000
def grRightAll : Nat := 0x00DDFFBF

structure BankRightsAndSlots where
  tabId : Nat
  /-- A `uint8`. -/
  rights : Nat
  /-- A `uint32`, read as an `int32`. -/
  slots : Nat
  deriving DecidableEq, Repr

namespace BankRightsAndSlots

def fresh : BankRightsAndSlots where
  tabId := tabUndefined
  rights := 0
  slots := 0

def setGuildMasterValues (r : BankRightsAndSlots) : BankRightsAndSlots :=
  { r with rights := 0xFF, slots := 0xFFFFFFFF }

end BankRightsAndSlots

structure RankInfo where
  rankId : Nat
  rights : Nat
  /-- Read as an `int32`. -/
  bankMoneyPerDay : UInt32
  bankTabRightsAndSlots : Fin guildBankMaxTabs → BankRightsAndSlots

namespace RankInfo

variable (info : RankInfo)

def setRights (rights : Nat) : RankInfo :=
  { info with rights := if info.rankId = grGuildmaster then grRightAll else rights }

def setBankMoneyPerDay (money : UInt32) : RankInfo :=
  { info with bankMoneyPerDay := if info.rankId = grGuildmaster then 0xFFFFFFFF else money }

def setBankTabSlotsAndRights (tab : Fin guildBankMaxTabs) (r : BankRightsAndSlots) : RankInfo :=
  let r := if info.rankId = grGuildmaster then r.setGuildMasterValues else r
  { info with bankTabRightsAndSlots := Function.update info.bankTabRightsAndSlots tab r }

/-- Tabs below `tabs` that have no rights yet get the default ones. -/
def createMissingTabsIfNeeded (tabs : Nat) : RankInfo :=
  { info with bankTabRightsAndSlots := fun i =>
      let r := info.bankTabRightsAndSlots i
      if i.val < tabs ∧ r.tabId ≠ i.val then
        let r := { r with tabId := i.val }
        if info.rankId = grGuildmaster then r.setGuildMasterValues else r
      else r }

end RankInfo

structure Member where
  guid : Nat
  rankId : Nat
  /-- What was taken since the last reset: slots of each tab, and last the gold. Each is an
  `int32`. -/
  bankWithdraw : Fin (guildBankMaxTabs + 1) → Int

def moneyCounter : Fin (guildBankMaxTabs + 1) := Fin.last guildBankMaxTabs

namespace Member

variable (member : Member)

def changeRank (newRank : Nat) : Member := { member with rankId := toUInt8 newRank }

/-- The amount is a `uint32`. -/
def updateBankWithdrawValue (tabId : Fin (guildBankMaxTabs + 1)) (amount : Nat) : Member :=
  let value := toInt32 (member.bankWithdraw tabId + toUInt32 amount)
  { member with bankWithdraw := Function.update member.bankWithdraw tabId value }

def resetValues : Member := { member with bankWithdraw := fun _ => 0 }

/-- Unlimited, minus one, for a guild master. -/
def getBankWithdrawValue (tabId : Fin (guildBankMaxTabs + 1)) : Int :=
  if member.rankId = grGuildmaster then -1 else member.bankWithdraw tabId

end Member

/-- `GUID_LOPART`. -/
def lowPart (guid : Nat) : Nat := guid % 2 ^ 32

structure Guild where
  leaderGuid : Nat
  /-- A `uint64`. -/
  bankMoney : Nat
  ranks : List RankInfo
  /-- In the order of the hash map, which is keyed by the low part of the guid. -/
  members : List Member
  purchasedTabs : Nat

/-- The hash map may reorder its members when one is inserted. -/
structure World where
  rehash : List Member → List Member
  rehash_perm : ∀ members, (rehash members).Perm members

namespace Guild

variable (g : Guild)

def getRanksSize : Nat := toUInt8 g.ranks.length

def getLowestRankId : Nat := toUInt8 (g.ranks.length - 1)

def getRankInfo (rankId : Nat) : Option RankInfo :=
  if rankId < g.getRanksSize then g.ranks[rankId]? else none

def getRankRights (rankId : Nat) : Nat := (g.getRankInfo rankId).elim 0 (·.rights)

def getRankBankMoneyPerDay (rankId : Nat) : Int :=
  (g.getRankInfo rankId).elim 0 fun info => toInt32 info.bankMoneyPerDay.toNat

def getMember (guid : Nat) : Option Member :=
  g.members.find? fun member => lowPart member.guid == lowPart guid

def isMember (guid : Nat) : Bool := (g.getMember guid).isSome

def modifyMember (guid : Nat) (f : Member → Member) : Guild :=
  { g with members := g.members.map fun member =>
      if lowPart member.guid = lowPart guid then f member else member }

def hasRankRight (player right : Nat) : Bool :=
  (g.getMember player).any fun member =>
    g.getRankRights member.rankId &&& right != grRightEmpty

def isLeader (player : Nat) : Bool :=
  player == g.leaderGuid || (g.getMember player).any fun member => member.rankId == grGuildmaster

def createRank (rights : Nat) : Guild :=
  let newRankId := g.getRanksSize
  if guildRanksMaxCount ≤ newRankId then g
  else
    let info : RankInfo :=
      { rankId := newRankId, rights := rights, bankMoneyPerDay := 0,
        bankTabRightsAndSlots := fun _ => .fresh }
    { g with ranks := g.ranks ++ [info.createMissingTabsIfNeeded g.purchasedTabs] }

/-- Every right for the guild master and the officer, the chat for the other three. -/
def createDefaultGuildRanks : Guild :=
  [grRightAll, grRightAll, grRightGchatListenSpeak, grRightGchatListenSpeak,
    grRightGchatListenSpeak].foldl createRank g

def create (leaderGuid : Nat) : Guild :=
  createDefaultGuildRanks
    { leaderGuid := leaderGuid, bankMoney := 0, ranks := [], members := [], purchasedTabs := 0 }

def handleAddNewRank (player : Nat) : Guild :=
  if guildRanksMaxCount ≤ g.getRanksSize then g
  else if g.isLeader player then g.createRank grRightGchatListenSpeak
  else g

/-- `HandleRemoveRank` goes past its checks. -/
def removesRank (player rankId : Nat) : Bool :=
  !(g.getRanksSize ≤ guildRanksMinCount || g.getRanksSize ≤ rankId || !g.isLeader player)

def handleRemoveRank (player rankId : Nat) : Guild :=
  if g.removesRank player rankId then { g with ranks := g.ranks.eraseIdx rankId } else g

/-- The rank that `HandleUpdateMemberRank` gives to a member. -/
def updatedRank (player guid : Nat) (demote : Bool) : Option Nat :=
  if g.hasRankRight player (if demote then grRightDemote else grRightPromote) then
    match g.getMember guid, g.getMember player with
    | some member, some memberMe =>
      if member.guid = player then none
      else if demote then
        if member.rankId ≤ memberMe.rankId then none
        else if g.getLowestRankId ≤ member.rankId then none
        else some (member.rankId + 1)
      else if member.rankId ≤ toUInt8 (memberMe.rankId + 1) then none
      else some (member.rankId - 1)
    | _, _ => none
  else none

def handleUpdateMemberRank (player guid : Nat) (demote : Bool) : Guild :=
  match g.updatedRank player guid demote with
  | some newRankId => g.modifyMember guid (·.changeRank newRankId)
  | none => g

/-- The checks of `HandleSetMemberRank`, which names a member. -/
def setsMemberRank (player guid rank : Nat) : Bool :=
  (g.getMember guid).any fun member =>
    g.hasRankRight player (if member.rankId < rank then grRightDemote else grRightPromote) &&
      member.guid != player

/-- With `SendGuildRanksUpdate`. -/
def handleSetMemberRank (player guid rank : Nat) : Guild :=
  if g.setsMemberRank player guid rank then g.modifyMember guid (·.changeRank rank) else g

def changeMemberRank (guid newRank : Nat) : Guild :=
  if newRank ≤ g.getLowestRankId then g.modifyMember guid (·.changeRank newRank) else g

def setLeaderGUID (leader : Member) : Guild :=
  { g with leaderGuid := leader.guid }.modifyMember leader.guid (·.changeRank grGuildmaster)

def handleSetNewGuildMaster (player newMaster : Nat) : Guild :=
  if g.isLeader player then
    match g.getMember player, g.getMember newMaster with
    | some _, some newGuildMaster =>
      (g.setLeaderGUID newGuildMaster).modifyMember player (·.changeRank grInitiate)
    | _, _ => g
  else g

def setRankBankTabRightsAndSlots (rankId : Nat) (r : BankRightsAndSlots) : Guild :=
  if tab : r.tabId < guildBankMaxTabs ∧ r.tabId < g.purchasedTabs ∧ rankId < g.getRanksSize then
    { g with ranks := g.ranks.modify rankId (·.setBankTabSlotsAndRights ⟨r.tabId, tab.1⟩ r) }
  else g

def handleSetRankInfo (player rankId rights : Nat) (moneyPerDay : UInt32)
    (rightsAndSlots : List BankRightsAndSlots) : Guild :=
  if g.isLeader player && rankId < g.getRanksSize then
    let g := { g with ranks := g.ranks.modify rankId fun info =>
      (info.setRights rights).setBankMoneyPerDay moneyPerDay }
    rightsAndSlots.foldl (fun g r => g.setRankBankTabRightsAndSlots rankId r) g
  else g

/-- `joins`: the player is in no other guild and his data is valid. -/
def addMember (w : World) (guid rankId : Nat) (joins : Bool) : Guild :=
  if g.isMember guid || !joins then g
  else
    let rankId := if rankId = guildRankNone then g.getLowestRankId else rankId
    { g with members := w.rehash (g.members ++
      [{ guid := guid, rankId := rankId, bankWithdraw := fun _ => 0 }]) }

/-- The first of the other members with the highest rank. -/
def newLeader (guid : Nat) : Option Member :=
  g.members.foldl (fun best member =>
    if lowPart member.guid = lowPart guid then best
    else match best with
      | none => some member
      | some leader => if member.rankId < leader.rankId then some member else best) none

def disband : Guild := { g with members := [] }

def eraseMember (guid : Nat) : Guild :=
  { g with members := g.members.filter fun member => lowPart member.guid != lowPart guid }

def deleteMember (guid : Nat) (isDisbanding : Bool) : Guild :=
  if g.leaderGuid = guid ∧ isDisbanding = false then
    match g.newLeader guid with
    | none => g.disband
    | some leader => (g.setLeaderGUID leader).eraseMember guid
  else g.eraseMember guid

def resetTimes : Guild := { g with members := g.members.map Member.resetValues }

/-- The rank may take gold out of the bank. -/
def mayWithdraw (rankId : Nat) : Bool := g.getRankRights rankId &&& grRightWithdraw != 0

def getMemberRemainingMoney (member : Member) : Int :=
  if member.rankId = grGuildmaster then -1
  else if g.mayWithdraw member.rankId then
    let remaining := toInt32 (g.getRankBankMoneyPerDay member.rankId -
      member.getBankWithdrawValue moneyCounter)
    if 0 < remaining then remaining else 0
  else 0

end Guild

/-- A guild and the wallets of the players. -/
structure State where
  guild : Guild
  wallets : Nat → Nat

namespace State

variable (s : State)

/-- `HandleMemberWithdrawMoney`. -/
def withdrawMoney (player amount : Nat) (repair : Bool) : State × Bool :=
  if s.guild.bankMoney < amount then (s, false)
  else match s.guild.getMember player with
    | none => (s, false)
    | some member =>
      if toUInt64 (s.guild.getMemberRemainingMoney member) < amount then (s, false)
      else
        let paid := if repair then (s.wallets player, true)
          else Player.modifyMoney (s.wallets player) (toInt64 amount)
        if paid.2 then
          let guild := s.guild.modifyMember player
            (·.updateBankWithdrawValue moneyCounter amount)
          ({ guild := { guild with bankMoney := guild.bankMoney - amount }
             wallets := Function.update s.wallets player paid.1 }, true)
        else (s, false)

/-- `HandleMemberDepositMoney` of gold from the wallet. -/
def depositMoney (player amount : Nat) : State :=
  { guild := { s.guild with bankMoney := toUInt64 (s.guild.bankMoney + amount) }
    wallets := Function.update s.wallets player
      (Player.modifyMoney (s.wallets player) (-(toInt64 amount))).1 }

/-- `HandleGuildBankDepositMoney` of a player who stands at the bank. -/
def handleGuildBankDepositMoney (player amount : Nat) : State :=
  if amount ≠ 0 ∧ amount ≤ s.wallets player then s.depositMoney player amount else s

def withGuild (guild : Guild) : State := { s with guild := guild }

end State

/-- What happens to a guild. -/
inductive Request where
  | addNewRank (player : Nat)
  | removeRank (player rankId : Nat)
  | updateMemberRank (player guid : Nat) (demote : Bool)
  | setMemberRank (player guid rank : Nat)
  | changeMemberRank (guid newRank : Nat)
  | setNewGuildMaster (player newMaster : Nat)
  | setRankInfo (player rankId rights : Nat) (moneyPerDay : UInt32)
      (rightsAndSlots : List BankRightsAndSlots)
  | addMember (guid rankId : Nat) (joins : Bool)
  | deleteMember (guid : Nat) (isDisbanding : Bool)
  | withdrawMoney (player amount : Nat) (repair : Bool)
  | depositMoney (player amount : Nat)
  | resetTimes

/-- One step, with the answer of a withdrawal. Rank ids are a `uint8`. -/
def step (w : World) (s : State) : Request → State × Bool
  | .addNewRank player => (s.withGuild (s.guild.handleAddNewRank player), true)
  | .removeRank player rankId =>
    (s.withGuild (s.guild.handleRemoveRank player (toUInt8 rankId)), true)
  | .updateMemberRank player guid demote =>
    (s.withGuild (s.guild.handleUpdateMemberRank player guid demote), true)
  | .setMemberRank player guid rank =>
    (s.withGuild (s.guild.handleSetMemberRank player guid rank), true)
  | .changeMemberRank guid newRank =>
    (s.withGuild (s.guild.changeMemberRank guid (toUInt8 newRank)), true)
  | .setNewGuildMaster player newMaster =>
    (s.withGuild (s.guild.handleSetNewGuildMaster player newMaster), true)
  | .setRankInfo player rankId rights moneyPerDay rightsAndSlots =>
    (s.withGuild (s.guild.handleSetRankInfo player (toUInt8 rankId) (toUInt32 rights)
      moneyPerDay rightsAndSlots), true)
  | .addMember guid rankId joins =>
    (s.withGuild (s.guild.addMember w guid (toUInt8 rankId) joins), true)
  | .deleteMember guid isDisbanding =>
    (s.withGuild (s.guild.deleteMember guid isDisbanding), true)
  | .withdrawMoney player amount repair => s.withdrawMoney player amount repair
  | .depositMoney player amount => (s.handleGuildBankDepositMoney player amount, true)
  | .resetTimes => (s.withGuild s.guild.resetTimes, true)

end OpenWoW.Guilds
