import Mathlib.Data.List.Basic

/-! Loot: how it is filled, what a viewer is shown and how items are taken. -/
namespace OpenWoW.Looting

inductive LootMethod
  | freeForAll
  | roundRobin
  | masterLoot
  | groupLoot
  | needBeforeGreed
  deriving DecidableEq, Repr

inductive PermissionTypes
  | all
  | group
  | master
  | roundRobin
  | owner
  | none
  deriving DecidableEq, Repr

inductive LootSlotType
  | allowLoot
  | rollOngoing
  | master
  | locked
  | owner
  deriving DecidableEq, Repr

inductive Team
  | alliance
  | horde
  deriving DecidableEq, Repr

def maxNrLootItems : Nat := 16
def maxNrQuestItems : Nat := 32

/-- What the loot code reads of an item template. -/
structure ItemPrototype where
  /-- `ITEM_PROTO_FLAG_PARTY_LOOT`. -/
  partyLoot : Bool
  /-- `ITEM_PROTO_FLAG_SMART_LOOT`. -/
  smartLoot : Bool
  requiredSkill : Nat
  /-- The spell that a recipe teaches, `Spells[1]`. -/
  taughtSpell : Nat
  hordeOnly : Bool
  allianceOnly : Bool
  startQuest : Nat
  /-- `ITEM_FLAGS_CU_IGNORE_QUEST_STATUS`. -/
  ignoreQuestStatus : Bool
  /-- `ITEM_FLAGS_CU_FOLLOW_LOOT_RULES`. -/
  followLootRules : Bool
  quality : Nat
  maxStackSize : Nat
  currencyToken : Bool
  deriving DecidableEq, Repr

/-- A drop entry of a loot template. -/
structure LootStoreItem where
  itemid : Nat
  needsQuest : Bool
  conditions : List Nat
  deriving DecidableEq, Repr

/-- A drop entry whose chance was rolled, with the drawn count. The loader skips entries
without a minimum count, and the maximum is kept in eight bits. -/
structure Rolled where
  entry : LootStoreItem
  count : Nat
  positive : 0 < count
  fits : count < 256

structure LootItem where
  itemid : Nat
  conditions : List Nat
  allowedGUIDs : List Nat
  count : Nat
  isLooted : Bool
  isBlocked : Bool
  freeforall : Bool
  isUnderthreshold : Bool
  isCounted : Bool
  needsQuest : Bool
  followLootRules : Bool
  deriving DecidableEq, Repr

/-- One position of a player's own list, with the player's own looted mark. -/
structure QuestItem where
  index : Nat
  isLooted : Bool
  deriving DecidableEq, Repr

abbrev QuestItemMap := List (Nat × List QuestItem)

structure GroupRules where
  lootMethod : LootMethod
  looterGuid : Nat
  deriving DecidableEq, Repr

/-- A player as the loot code asks about him. -/
structure Player where
  guid : Nat
  group : Option GroupRules
  team : Team
  meetsConditions : List Nat → Bool
  hasSkill : Nat → Bool
  hasSpell : Nat → Bool
  /-- The status of the quest is not `QUEST_STATUS_NONE`. -/
  questTaken : Nat → Bool
  hasQuestForItem : Nat → Bool

structure Loot where
  items : List LootItem
  questItems : List LootItem
  gold : Nat
  unlootedCount : UInt8
  roundRobinPlayer : Nat
  playerQuestItems : QuestItemMap
  playerFFAItems : QuestItemMap
  playerNonQuestNonFFAConditionalItems : QuestItemMap
  deriving DecidableEq, Repr

def Loot.empty (gold : Nat) : Loot where
  items := []
  questItems := []
  gold := gold
  unlootedCount := 0
  roundRobinPlayer := 0
  playerQuestItems := []
  playerFFAItems := []
  playerNonQuestNonFFAConditionalItems := []

abbrev Prototypes := Nat → Option ItemPrototype

namespace LootItem

def ofStore (proto : ItemPrototype) (li : LootStoreItem) (count : Nat) : LootItem where
  itemid := li.itemid
  conditions := li.conditions
  allowedGUIDs := []
  count := count
  isLooted := false
  isBlocked := false
  freeforall := proto.partyLoot
  isUnderthreshold := false
  isCounted := false
  needsQuest := li.needsQuest
  followLootRules := proto.followLootRules

def allowedForPlayer (protos : Prototypes) (item : LootItem) (player : Player) : Bool :=
  (item.conditions.isEmpty || player.meetsConditions item.conditions) &&
    match protos item.itemid with
    | none => false
    | some proto =>
      !(proto.smartLoot &&
          (!player.hasSkill proto.requiredSkill || player.hasSpell proto.taughtSpell)) &&
        !(proto.hordeOnly && player.team ≠ .horde) &&
        !(proto.allianceOnly && player.team ≠ .alliance) &&
        !(!proto.ignoreQuestStatus &&
          (item.needsQuest || (proto.startQuest ≠ 0 && player.questTaken proto.startQuest)) &&
          !player.hasQuestForItem item.itemid)

/-- The second way into a player's lists: the item follows the loot rules of his group and
these let him at it. -/
def listedByGroup (item : LootItem) (player : Player) : Bool :=
  item.followLootRules &&
    match player.group with
    | none => false
    | some rules => rules.lootMethod ≠ .masterLoot || rules.looterGuid = player.guid

def addAllowedLooter (item : LootItem) (player : Nat) : LootItem :=
  if player ∈ item.allowedGUIDs then item
  else { item with allowedGUIDs := player :: item.allowedGUIDs }

end LootItem

/-- Which element of `items` or `quest_items` is meant. -/
inductive Source
  | plain (i : Nat)
  | quest (j : Nat)
  deriving DecidableEq, Repr

inductive ListKind
  | quest
  | ffa
  | conditional
  deriving DecidableEq, Repr

/-- What `LootItemInSlot` hands out. -/
structure Found where
  source : Source
  item : LootItem
  /-- The list and the position in it that the slot stands for. -/
  entry : Option (ListKind × Nat)
  deriving DecidableEq, Repr

inductive Event
  /-- `StoreLootItem` put the item into the player's inventory. `listed`: the slot stood in one
  of his own lists. -/
  | stored (player : Nat) (source : Source) (listed : Bool) (count : Nat)
  /-- The master looter gave the item to the player. -/
  | given (player : Nat) (source : Source) (count : Nat)
  deriving DecidableEq, Repr

namespace Loot

def item? (loot : Loot) : Source → Option LootItem
  | .plain i => loot.items[i]?
  | .quest j => loot.questItems[j]?

def modifyItem (loot : Loot) (source : Source) (f : LootItem → LootItem) : Loot :=
  match source with
  | .plain i => { loot with items := loot.items.modify i f }
  | .quest j => { loot with questItems := loot.questItems.modify j f }

def isLooted (loot : Loot) : Bool := loot.gold = 0 ∧ loot.unlootedCount = 0

/-- The loop of `AddItem` over the stacks that are still to be made. -/
def pushStacks (proto : ItemPrototype) (item : LootStoreItem) : Nat → Nat → Loot → Loot
  | 0, _, loot => loot
  | left + 1, count, loot =>
    let generated := LootItem.ofStore proto item (min count proto.maxStackSize)
    if item.needsQuest then
      if loot.questItems.length < maxNrQuestItems then
        pushStacks proto item left (count - proto.maxStackSize)
          { loot with questItems := loot.questItems ++ [generated] }
      else loot
    else if loot.items.length < maxNrLootItems then
      pushStacks proto item left (count - proto.maxStackSize)
        { loot with
          items := loot.items ++ [generated]
          unlootedCount :=
            if item.conditions.isEmpty && !proto.partyLoot then loot.unlootedCount + 1
            else loot.unlootedCount }
    else loot

def addItem (protos : Prototypes) (loot : Loot) (rolled : Rolled) : Loot :=
  match protos rolled.entry.itemid with
  | none => loot
  | some proto =>
    pushStacks proto rolled.entry
      (rolled.count / proto.maxStackSize +
        if rolled.count % proto.maxStackSize ≠ 0 then 1 else 0)
      rolled.count loot

/-- Quest items are blocked when they first get into a list, save under these two methods. -/
def blocksQuestItems (player : Player) : Bool :=
  match player.group with
  | none => true
  | some rules => rules.lootMethod ≠ .groupLoot && rules.lootMethod ≠ .roundRobin

/-- The loop of `FillQuestLoot` from one index on, with the list and the counter so far. -/
def listQuestItems (protos : Prototypes) (player : Player) (itemsSize : Nat) :
    Nat → List LootItem → List QuestItem → UInt8 → List LootItem × List QuestItem × UInt8
  | _, [], ql, unlooted => ([], ql, unlooted)
  | index, item :: rest, ql, unlooted =>
    if !item.isLooted && (item.allowedForPlayer protos player || item.listedByGroup player) then
      let listed := ql ++ [⟨index, false⟩]
      let counted := if item.freeforall || !item.isBlocked then unlooted + 1 else unlooted
      let marked := if blocksQuestItems player then { item with isBlocked := true } else item
      if itemsSize + listed.length = maxNrLootItems then (marked :: rest, listed, counted)
      else
        let (rest, ql, unlooted) :=
          listQuestItems protos player itemsSize (index + 1) rest listed counted
        (marked :: rest, ql, unlooted)
    else
      let (rest, ql, unlooted) :=
        listQuestItems protos player itemsSize (index + 1) rest ql unlooted
      (item :: rest, ql, unlooted)

def fillQuestLoot (protos : Prototypes) (loot : Loot) (player : Player) : Loot :=
  if loot.items.length = maxNrLootItems then loot
  else
    let (questItems, ql, unlooted) :=
      listQuestItems protos player loot.items.length 0 loot.questItems [] loot.unlootedCount
    { loot with
      questItems := questItems
      unlootedCount := unlooted
      playerQuestItems :=
        if ql.isEmpty then loot.playerQuestItems else (player.guid, ql) :: loot.playerQuestItems }

def listedFFA (protos : Prototypes) (player : Player) (item : LootItem) : Bool :=
  !item.isLooted && item.freeforall && item.allowedForPlayer protos player

def entriesOf (test : LootItem → Bool) (items : List LootItem) : List QuestItem :=
  (items.zipIdx.filter fun x => test x.1).map fun x => ⟨x.2, false⟩

def fillFFALoot (protos : Prototypes) (loot : Loot) (player : Player) : Loot :=
  let ql := entriesOf (listedFFA protos player) loot.items
  { loot with
    unlootedCount := loot.unlootedCount + UInt8.ofNat ql.length
    playerFFAItems :=
      if ql.isEmpty then loot.playerFFAItems else (player.guid, ql) :: loot.playerFFAItems }

/-- The plain items that a player may take and that are not free for all. -/
def openTo (protos : Prototypes) (player : Player) (item : LootItem) : Bool :=
  !item.isLooted && !item.freeforall &&
    (item.allowedForPlayer protos player || item.listedByGroup player)

def listedConditional (protos : Prototypes) (player : Player) (item : LootItem) : Bool :=
  openTo protos player item && !item.conditions.isEmpty

def markConditional (protos : Prototypes) (player : Player) (presentAtLooting : Bool)
    (item : LootItem) : LootItem :=
  if openTo protos player item then
    let item := if presentAtLooting then item.addAllowedLooter player.guid else item
    if item.conditions.isEmpty then item else { item with isCounted := true }
  else item

def fillNonQuestNonFFAConditionalLoot (protos : Prototypes) (loot : Loot) (player : Player)
    (presentAtLooting : Bool) : Loot :=
  let ql := entriesOf (listedConditional protos player) loot.items
  let fresh := loot.items.countP fun item => listedConditional protos player item && !item.isCounted
  { loot with
    items := loot.items.map (markConditional protos player presentAtLooting)
    unlootedCount := loot.unlootedCount + UInt8.ofNat fresh
    playerNonQuestNonFFAConditionalItems :=
      if ql.isEmpty then loot.playerNonQuestNonFFAConditionalItems
      else (player.guid, ql) :: loot.playerNonQuestNonFFAConditionalItems }

def findEntry (map : QuestItemMap) (player lootSlot : Nat) : Option (QuestItem × Nat) :=
  match map.lookup player with
  | none => none
  | some ql => ql.zipIdx.find? fun x => x.1.index = lootSlot

def lootItemInSlot (loot : Loot) (lootSlot player : Nat) : Option Found :=
  if loot.items.length ≤ lootSlot then do
    let ql ← loot.playerQuestItems.lookup player
    let entry ← ql[lootSlot - loot.items.length]?
    let item ← loot.questItems[entry.index]?
    if entry.isLooted then none
    else some ⟨.quest entry.index, item, some (.quest, lootSlot - loot.items.length)⟩
  else do
    let item ← loot.items[lootSlot]?
    let entry :=
      if item.freeforall then
        (findEntry loot.playerFFAItems player lootSlot).map fun x => (x, ListKind.ffa)
      else if item.conditions.isEmpty then none
      else
        (findEntry loot.playerNonQuestNonFFAConditionalItems player lootSlot).map fun x =>
          (x, ListKind.conditional)
    match entry with
    | some ((entry, pos), kind) =>
      if entry.isLooted then none else some ⟨.plain lootSlot, item, some (kind, pos)⟩
    | none => if item.isLooted then none else some ⟨.plain lootSlot, item, none⟩

def setLooted (map : QuestItemMap) (player pos : Nat) : QuestItemMap :=
  map.map fun x =>
    if x.1 = player then (x.1, x.2.modify pos fun entry => { entry with isLooted := true }) else x

def markEntry (loot : Loot) (player : Nat) : Option (ListKind × Nat) → Loot
  | none => loot
  | some (.quest, pos) =>
    { loot with playerQuestItems := setLooted loot.playerQuestItems player pos }
  | some (.ffa, pos) => { loot with playerFFAItems := setLooted loot.playerFFAItems player pos }
  | some (.conditional, pos) =>
    { loot with
      playerNonQuestNonFFAConditionalItems :=
        setLooted loot.playerNonQuestNonFFAConditionalItems player pos }

def take (loot : Loot) (player : Nat) (found : Found) : Loot :=
  let marked := loot.markEntry player found.entry
  let marked :=
    if found.item.freeforall then marked
    else marked.modifyItem found.source fun item => { item with isLooted := true }
  { marked with unlootedCount := marked.unlootedCount - 1 }

def blocks (found : Found) : Bool :=
  match found.source with
  | .plain _ => found.item.isBlocked
  | .quest _ => false

/-- `StoreLootItem`, with the answer of `CanStoreNewItem`. `StoreNewItem` makes no item out of
a count of zero. -/
def storeLootItem (loot : Loot) (player lootSlot : Nat) (canStore : Bool) : Loot × List Event :=
  match loot.lootItemInSlot lootSlot player with
  | none => (loot, [])
  | some found =>
    if blocks found then (loot, [])
    else if canStore then
      (loot.take player found,
        if found.item.count = 0 then []
        else [.stored player found.source found.entry.isSome found.item.count])
    else (loot, [])

/-- The element that the master looter's slot number is resolved to. -/
def masterSource (loot : Loot) (slotid : Nat) : Source :=
  if loot.items.length ≤ slotid then .quest (slotid - loot.items.length) else .plain slotid

/-- That element, if the number passes the handler's check. -/
def masterItem (loot : Loot) (slotid : Nat) : Option (Source × LootItem) :=
  if loot.items.length + loot.questItems.length ≤ slotid then none
  else (loot.item? (loot.masterSource slotid)).map fun item => (loot.masterSource slotid, item)

/-- `HandleLootMasterGiveOpcode`. `ready`: the sender is the master looter of his group and
looks at this loot, and the target is online. -/
def masterGive (protos : Prototypes) (loot : Loot) (ready : Bool) (slotid : Nat)
    (target : Player) (canStore : Bool) : Loot × List Event :=
  if !ready then (loot, [])
  else
    match loot.masterItem slotid with
    | none => (loot, [])
    | some (source, item) =>
      if !canStore || (item.followLootRules && !item.allowedForPlayer protos target) then
        (loot, [])
      else
        let given := loot.modifyItem source fun item => { item with count := 0, isLooted := true }
        ({ given with unlootedCount := given.unlootedCount - 1 },
          if item.count = 0 then [] else [.given target.guid source item.count])

def lootMoney (loot : Loot) : Loot := { loot with gold := 0 }

/-- The currency items are put into the inventory of a present player at once. Quest items are
looked up by their own index and taken by the position in the player's list. -/
def storeCurrency (protos : Prototypes) (canStore : Nat → Nat → Bool) (player : Player)
    (filled : Loot × List Event) (i : Nat) : Loot × List Event :=
  let loot := filled.1
  let source :=
    if i < loot.items.length then Source.plain i else Source.quest (i - loot.items.length)
  match loot.item? source with
  | none => filled
  | some item =>
    if !item.isLooted && item.freeforall && item.allowedForPlayer protos player &&
        (protos item.itemid).any (·.currencyToken) then
      let next := loot.storeLootItem player.guid i (canStore player.guid i)
      (next.1, filled.2 ++ next.2)
    else filled

def getMaxSlotInLootFor (loot : Loot) (player : Nat) : Nat :=
  loot.items.length + ((loot.playerQuestItems.lookup player).elim 0 List.length)

/-- The three lists of a player, each made at most once. -/
def fillLists (protos : Prototypes) (loot : Loot) (player : Player) (presentAtLooting : Bool) :
    Loot :=
  let quest :=
    if (loot.playerQuestItems.lookup player.guid).isNone then fillQuestLoot protos loot player
    else loot
  let ffa :=
    if (quest.playerFFAItems.lookup player.guid).isNone then fillFFALoot protos quest player
    else quest
  if (ffa.playerNonQuestNonFFAConditionalItems.lookup player.guid).isNone then
    fillNonQuestNonFFAConditionalLoot protos ffa player presentAtLooting
  else ffa

def fillNotNormalLootFor (protos : Prototypes) (canStore : Nat → Nat → Bool)
    (filled : Loot × List Event) (looter : Player × Bool) : Loot × List Event :=
  let listed := (fillLists protos filled.1 looter.1 looter.2, filled.2)
  if looter.2 then
    (List.range (listed.1.getMaxSlotInLootFor looter.1.guid)).foldl
      (storeCurrency protos canStore looter.1) listed
  else listed

def markUnderthreshold (protos : Prototypes) (threshold : Nat) (loot : Loot) : Loot :=
  { loot with
    items := loot.items.map fun item =>
      if (protos item.itemid).any fun proto => proto.quality < threshold then
        { item with isUnderthreshold := true }
      else item }

end Loot

/-- The members of the looter's group that are online, each with whether he is near. -/
structure Party where
  members : List (Player × Bool)
  lootThreshold : Nat
  distinct : (members.map (·.1.guid)).Nodup

/-- What `FillLoot` is called with: the entries that the template's chances let through, the
owner, his group if the loot is not personal, and the answers of `CanStoreNewItem` for the
currency items, by player and slot. -/
structure Fill where
  protos : Prototypes
  rolled : List Rolled
  lootOwner : Player
  group : Option Party
  canStore : Nat → Nat → Bool

namespace Fill

def looters (fill : Fill) : List (Player × Bool) :=
  match fill.group with
  | none => [(fill.lootOwner, true)]
  | some party => party.members

def process (fill : Fill) (gold : Nat) : Loot :=
  fill.rolled.foldl (Loot.addItem fill.protos) (Loot.empty gold)

def fillLoot (fill : Fill) (gold : Nat) : Loot × List Event :=
  let processed := fill.process gold
  match fill.group with
  | none => Loot.fillNotNormalLootFor fill.protos fill.canStore (processed, []) (fill.lootOwner, true)
  | some party =>
    let filled := party.members.foldl (Loot.fillNotNormalLootFor fill.protos fill.canStore)
      ({ processed with roundRobinPlayer := fill.lootOwner.guid }, [])
    (Loot.markUnderthreshold fill.protos party.lootThreshold filled.1, filled.2)

end Fill

/-- One line of the loot window. The slot is a byte of the message. -/
structure Shown where
  slot : UInt8
  source : Source
  slotType : LootSlotType
  deriving DecidableEq, Repr

namespace Loot

def plainSlotType (loot : Loot) (viewer : Nat) (permission : PermissionTypes)
    (item : LootItem) : Option LootSlotType :=
  match permission with
  | .group =>
    if item.isBlocked then some .rollOngoing
    else if loot.roundRobinPlayer = 0 || !item.isUnderthreshold || viewer = loot.roundRobinPlayer
    then some .allowLoot
    else none
  | .roundRobin =>
    if loot.roundRobinPlayer ≠ 0 && viewer ≠ loot.roundRobinPlayer then none
    else some .allowLoot
  | .all => some .allowLoot
  | .master => some .master
  | .owner => some .owner
  | .none => none

def listSlotType (permission : PermissionTypes) (item : LootItem) : LootSlotType :=
  let slotType := if permission = .owner then LootSlotType.owner else .allowLoot
  if item.followLootRules then
    match permission with
    | .master => .master
    | .group | .roundRobin => if item.isBlocked then .rollOngoing else .allowLoot
    | _ => slotType
  else slotType

def shownPlain (protos : Prototypes) (loot : Loot) (viewer : Player)
    (permission : PermissionTypes) : List Shown :=
  loot.items.zipIdx.filterMap fun x =>
    if !x.1.isLooted && !x.1.freeforall && x.1.conditions.isEmpty &&
        x.1.allowedForPlayer protos viewer then
      (loot.plainSlotType viewer.guid permission x.1).map fun slotType =>
        ⟨UInt8.ofNat x.2, .plain x.2, slotType⟩
    else none

def shownQuest (loot : Loot) (viewer : Player) (permission : PermissionTypes) : List Shown :=
  (((loot.playerQuestItems.lookup viewer.guid).getD []).zipIdx).filterMap fun x =>
    (loot.questItems[x.1.index]?).bind fun item =>
      if x.1.isLooted || item.isLooted then none
      else some ⟨UInt8.ofNat (loot.items.length + x.2), .quest x.1.index,
        listSlotType permission item⟩

def shownListed (loot : Loot) (map : QuestItemMap) (viewer : Player)
    (slotType : LootItem → LootSlotType) : List Shown :=
  ((map.lookup viewer.guid).getD []).filterMap fun entry =>
    (loot.items[entry.index]?).bind fun item =>
      if entry.isLooted || item.isLooted then none
      else some ⟨UInt8.ofNat entry.index, .plain entry.index, slotType item⟩

/-- The lines that `operator<<` writes for a `LootView`. -/
def view (protos : Prototypes) (loot : Loot) (viewer : Player) (permission : PermissionTypes) :
    List Shown :=
  if permission = .none then []
  else
    loot.shownPlain protos viewer permission ++ loot.shownQuest viewer permission ++
      loot.shownListed loot.playerFFAItems viewer
        (fun _ => if permission = .owner then .owner else .allowLoot) ++
      loot.shownListed loot.playerNonQuestNonFFAConditionalItems viewer (listSlotType permission)

end Loot

inductive Request
  | storeLootItem (player lootSlot : Nat) (canStore : Bool)
  | lootMasterGive (ready : Bool) (slotid : Nat) (target : Player) (canStore : Bool)
  | lootMoney

def step (protos : Prototypes) (loot : Loot) : Request → Loot × List Event
  | .storeLootItem player lootSlot canStore => loot.storeLootItem player lootSlot canStore
  | .lootMasterGive ready slotid target canStore =>
    loot.masterGive protos ready slotid target canStore
  | .lootMoney => (loot.lootMoney, [])

/-- A template without flags. -/
def plainPrototype : ItemPrototype where
  partyLoot := false
  smartLoot := false
  requiredSkill := 0
  taughtSpell := 0
  hordeOnly := false
  allianceOnly := false
  startQuest := 0
  ignoreQuestStatus := false
  followLootRules := false
  quality := 1
  maxStackSize := 20
  currencyToken := false

def questPlayer (guid : Nat) (group : Option GroupRules) (items : List Nat) : Player where
  guid := guid
  group := group
  team := .alliance
  meetsConditions := fun _ => true
  hasSkill := fun _ => false
  hasSpell := fun _ => false
  questTaken := fun _ => false
  hasQuestForItem := fun item => items.contains item

/-- One piece of a quest item. -/
def questDrop (itemid : Nat) : Rolled where
  entry := { itemid := itemid, needsQuest := true, conditions := [] }
  count := 1
  positive := by decide
  fits := by decide

end OpenWoW.Looting
