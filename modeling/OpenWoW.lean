import OpenWoW.ByteBufferRoundTrip
import OpenWoW.WorldSocketAuth
import OpenWoW.AuthSocketRun
import OpenWoW.AuctionMoney
import OpenWoW.AuctionItems
import OpenWoW.AuctionDelivery
import OpenWoW.MailMoney
import OpenWoW.MailItems
import OpenWoW.LootView
import OpenWoW.LootCount
import OpenWoW.GroupRolls
import OpenWoW.GroupMembers
import OpenWoW.QuestItems
import OpenWoW.GuildGold
import OpenWoW.VoidTransfer
import OpenWoW.SpellTargets
import OpenWoW.BattlegroundRuns
import OpenWoW.BattlegroundWaits
import OpenWoW.DungeonCache
import OpenWoW.MovementRoundTrip
import OpenWoW.AuthSocketCuts
import OpenWoW.HonestLogon
import OpenWoW.CalendarIds
import OpenWoW.CalendarConfined
import OpenWoW.WorldSocketFrames
import OpenWoW.InstanceBinds
import OpenWoW.Phasing
import OpenWoW.GameEventQuests
import OpenWoW.GuildFinder
import OpenWoW.AccountRoles
import OpenWoW.Channel
import OpenWoW.GameEventTimes
import OpenWoW.ReputationCounters
import OpenWoW.VehicleRuns
import OpenWoW.MotionRuns
import OpenWoW.SessionPacketUpdates
import OpenWoW.LoginQueueFairness
import OpenWoW.QuestPoolRotation
import OpenWoW.SpawnPoolRuns
import OpenWoW.PetitionRuns
import OpenWoW.SkillSlotRuns
import OpenWoW.SpellBookRuns
import OpenWoW.DungeonRoleSearch
import OpenWoW.DungeonSearch
import OpenWoW.BuyBack
import OpenWoW.GroupRollAwards
import OpenWoW.BattlegroundFilling
import OpenWoW.CanStoreNew
import OpenWoW.CanStorePlan
import OpenWoW.QuestRewards
import OpenWoW.InstanceIds
import OpenWoW.ConditionLists
import OpenWoW.WorldResetRuns
import OpenWoW.ImplicitTargets
import OpenWoW.GroupLooter
import OpenWoW.AuraStacking
import OpenWoW.AccountAccess
import OpenWoW.ReputationSurvival
import OpenWoW.VendorRuns
import OpenWoW.PeriodicAuras
import OpenWoW.DumpLines
import OpenWoW.PhaseUpdates
import OpenWoW.ByteBufferPatches
import OpenWoW.GuidCodecs
import OpenWoW.WideStrings
import OpenWoW.QuestLoot
import OpenWoW.ArenaTeams
