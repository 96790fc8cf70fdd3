import Mathlib.Logic.Function.Basic
import OpenWoW.Item
import OpenWoW.Lib.Run

/-! The auction houses, over the wallets and inventories of all players. -/
namespace OpenWoW.Auction

inductive House
  | alliance
  | horde
  | neutral
  deriving DecidableEq, Repr

structure AuctionEntry where
  id : Nat
  auctioneer : Nat
  itemGuidLow : Nat
  itemEntry : Nat
  itemCount : Nat
  owner : Nat
  startbid : Nat
  bid : Nat
  buyout : Nat
  expireTime : Nat
  bidder : Nat
  deposit : Nat
  houseId : Nat
  deriving DecidableEq, Repr

/-- What the handlers read from the client data stores and the configuration. The three
percentages are computed in floating point, so they enter as functions. -/
structure Rules where
  /-- `GetAuctionsMap` of a faction template. -/
  auctionsMap : Nat → House
  /-- `GetAuctionHouseEntry` of a faction template. -/
  auctionHouseEntry : Nat → Option Nat
  /-- The number of seconds an auction of the given length lasts. -/
  auctionTime : Nat → Nat
  outBidPct : Nat → Nat
  cutPct : Nat → Nat → Int
  depositPct : Nat → Nat → Nat → Nat → Nat
  twoSideInteraction : Bool

/-- The answers that auction mails stand for. -/
inductive Answer
  | outbidded
  | won
  | successful
  | expired
  | cancelledToBidder
  | canceled
  | salePending
  deriving DecidableEq, Repr

structure Mail where
  answer : Answer
  auction : Nat
  receiver : Nat
  money : Nat
  item : Option Item
  deriving DecidableEq, Repr

inductive Statement
  | insMail (mail : Mail)
  | insAuction (auction : AuctionEntry)
  | delAuction (id : Nat)
  | updAuctionBid (bidder bid id : Nat)
  | updItemOwner (owner guid : Nat)
  | saveInventoryAndGold (player : Nat)
  deriving DecidableEq, Repr

inductive Action
  | sellItem
  | cancel
  | placeBid
  deriving DecidableEq, Repr

inductive AuctionError
  | ok
  | itemNotFound
  | databaseError
  | notEnoughMoney
  | bidOwn
  | higherBid
  deriving DecidableEq, Repr

inductive Event
  | commandResult (auction : Option AuctionEntry) (action : Action) (error : AuctionError)
  | commit (statements : List Statement)
  deriving DecidableEq, Repr

/-- Players are named by their low guid, as the auctions name them. -/
structure World where
  /-- The character is online or known to the database. -/
  character : Nat → Bool
  money : Nat → Nat
  inventory : Nat → List Item
  auctions : House → Nat → Option AuctionEntry
  /-- `mAitems`. -/
  aItems : Nat → Option Item
  nextAuctionId : Nat
  nextItemGuid : Nat

section

variable (rules : Rules)

def AuctionEntry.getAuctionOutBid (a : AuctionEntry) : Nat :=
  let outbid := toUInt32 (rules.outBidPct a.bid)
  if outbid = 0 then 1 else outbid

def AuctionEntry.getAuctionCut (a : AuctionEntry) : Nat :=
  (toInt32 (rules.cutPct a.houseId a.bid)).toNat

def ahMinimumDeposit : Nat := 100

def getAuctionDeposit (houseId time : Nat) (item : Item) (count : Nat) : Nat :=
  if item.proto.sellPrice = 0 then ahMinimumDeposit
  else
    let deposit := toUInt32 (rules.depositPct houseId time item.proto.sellPrice count)
    if deposit < ahMinimumDeposit then ahMinimumDeposit else deposit

end

namespace World

def setAuction (w : World) (house : House) (id : Nat) (auction : Option AuctionEntry) : World :=
  { w with
    auctions := Function.update w.auctions house (Function.update (w.auctions house) id auction) }

def setAItem (w : World) (guid : Nat) (item : Option Item) : World :=
  { w with aItems := Function.update w.aItems guid item }

def setInventory (w : World) (player : Nat) (items : List Item) : World :=
  { w with inventory := Function.update w.inventory player items }

def modifyMoney (w : World) (player : Nat) (amount : Int) : World :=
  { w with money := Function.update w.money player (Player.modifyMoney (w.money player) amount).1 }

section

variable (w : World) (house : House) (id player : Nat) (auction : Option AuctionEntry)
  (item : Option Item) (items : List Item) (amount : Int)

@[simp] theorem setAuction_character : (w.setAuction house id auction).character = w.character := rfl
@[simp] theorem setAuction_money : (w.setAuction house id auction).money = w.money := rfl
@[simp] theorem setAuction_aItems : (w.setAuction house id auction).aItems = w.aItems := rfl
@[simp] theorem setAuction_nextAuctionId :
    (w.setAuction house id auction).nextAuctionId = w.nextAuctionId := rfl

@[simp] theorem setAItem_character : (w.setAItem id item).character = w.character := rfl
@[simp] theorem setAItem_money : (w.setAItem id item).money = w.money := rfl
@[simp] theorem setAItem_auctions : (w.setAItem id item).auctions = w.auctions := rfl
@[simp] theorem setAItem_nextAuctionId : (w.setAItem id item).nextAuctionId = w.nextAuctionId := rfl

@[simp] theorem setInventory_character : (w.setInventory player items).character = w.character := rfl
@[simp] theorem setInventory_money : (w.setInventory player items).money = w.money := rfl
@[simp] theorem setInventory_auctions : (w.setInventory player items).auctions = w.auctions := rfl
@[simp] theorem setInventory_aItems : (w.setInventory player items).aItems = w.aItems := rfl
@[simp] theorem setInventory_nextAuctionId :
    (w.setInventory player items).nextAuctionId = w.nextAuctionId := rfl

@[simp] theorem modifyMoney_character : (w.modifyMoney player amount).character = w.character := rfl
@[simp] theorem modifyMoney_auctions : (w.modifyMoney player amount).auctions = w.auctions := rfl
@[simp] theorem modifyMoney_aItems : (w.modifyMoney player amount).aItems = w.aItems := rfl
@[simp] theorem modifyMoney_inventory : (w.modifyMoney player amount).inventory = w.inventory := rfl
@[simp] theorem modifyMoney_nextAuctionId :
    (w.modifyMoney player amount).nextAuctionId = w.nextAuctionId := rfl

theorem auctions_setAuction (house' : House) (id' : Nat) :
    (w.setAuction house id auction).auctions house' id' =
      if house' = house ∧ id' = id then auction else w.auctions house' id' := by
  unfold setAuction
  by_cases same : house' = house
  · subst same
    by_cases here : id' = id
    · simp [here]
    · simp [here]
  · simp [same]

theorem aItems_setAItem (guid guid' : Nat) :
    (w.setAItem guid item).aItems guid' = if guid' = guid then item else w.aItems guid' := by
  simp [setAItem, Function.update_apply]

theorem inventory_setInventory (player' : Nat) :
    (w.setInventory player items).inventory player' =
      if player' = player then items else w.inventory player' := by
  simp [setInventory, Function.update_apply]

theorem money_modifyMoney (player' : Nat) :
    (w.modifyMoney player amount).money player' =
      if player' = player then (Player.modifyMoney (w.money player) amount).1
      else w.money player' := by
  simp [modifyMoney, Function.update_apply]

end

end World

section

variable (rules : Rules) (w : World) (auction : AuctionEntry)

def sendAuctionWonMail : List Statement :=
  match w.aItems auction.itemGuidLow with
  | none => []
  | some item =>
    if w.character auction.bidder then
      [.updItemOwner auction.bidder item.guid,
        .insMail ⟨.won, auction.id, auction.bidder, 0, some item⟩]
    else []

def sendAuctionSalePendingMail : List Statement :=
  if w.character auction.owner then [.insMail ⟨.salePending, auction.id, auction.owner, 0, none⟩]
  else []

def sendAuctionSuccessfulMail : List Statement :=
  if w.character auction.owner then
    let profit := toUInt32 (auction.bid + auction.deposit - auction.getAuctionCut rules)
    [.insMail ⟨.successful, auction.id, auction.owner, profit, none⟩]
  else []

def sendAuctionExpiredMail : List Statement :=
  match w.aItems auction.itemGuidLow with
  | none => []
  | some item =>
    if w.character auction.owner then
      [.insMail ⟨.expired, auction.id, auction.owner, 0, some item⟩]
    else []

def sendAuctionOutbiddedMail : List Statement :=
  if w.character auction.bidder then
    [.insMail ⟨.outbidded, auction.id, auction.bidder, auction.bid, none⟩]
  else []

def sendAuctionCancelledToBidderMail : List Statement :=
  if w.character auction.bidder then
    [.insMail ⟨.cancelledToBidder, auction.id, auction.bidder, auction.bid, none⟩]
  else []

/-- `RemoveAItem` and `RemoveAuction`. -/
def closeAuction (house : House) : World :=
  (w.setAItem auction.itemGuidLow none).setAuction house auction.id none

end

def maxAuctionItems : Nat := 160

structure SellRequest where
  auctioneer : Nat
  /-- Guids and counts, in the order of the packet. -/
  items : List (Nat × Nat)
  bid : Nat
  buyout : Nat
  etime : Nat
  /-- The faction template of the auctioneer, if there is one to interact with. -/
  creature : Option Nat
  time : Nat
  /-- Whether `CloneItem` can create its object. -/
  cloned : Bool

/-- The size of the stack that goes up for sale. -/
def SellRequest.finalCount (r : SellRequest) : Nat := toUInt32 ((r.items.map (·.2)).sum : Nat)

/-- The length of the auction in seconds. -/
def SellRequest.seconds (r : SellRequest) : Nat := toUInt32 (r.etime * 60)

def getItemByGuid (items : List Item) (guid : Nat) : Option Item :=
  items.find? fun item => item.guid = guid

/-- The first loop over the pairs: every stack is there, may be sold and is large enough. -/
def checkItems (w : World) (player : Nat) : List (Nat × Nat) → Except AuctionError (List Item)
  | [] => .ok []
  | (guid, count) :: rest =>
    match getItemByGuid (w.inventory player) guid with
    | none => .error .itemNotFound
    | some item =>
      if (w.aItems item.guid).isSome ∨ ¬ item.canBeTraded false false ∨ item.notEmptyBag ∨
          item.proto.conjured ∨ item.duration ≠ 0 ∨ item.count < count then
        .error .databaseError
      else (item :: ·) <$> checkItems w player rest

/-- An object with whether it is still in the inventory. -/
abbrev Held := Item × Bool

/-- One turn of the last loop: a stack of exactly this size leaves the inventory, any other
is shrunk. An object that has left the inventory before keeps its count. -/
def takeFromStack (guid count : Nat) (objects : List Held) : List Held :=
  objects.map fun object =>
    if object.1.guid = guid then
      if object.1.count = count then (object.1, false)
      else ({ object.1 with count := toUInt32 (object.1.count - count) }, object.2)
    else object

def takeFromStacks (pairs : List (Nat × Nat)) (objects : List Held) : List Held :=
  pairs.foldl (fun objects pair => takeFromStack pair.1 pair.2 objects) objects

def stillHeld (objects : List Held) : List Item := (objects.filter (·.2)).map (·.1)

def newAuction (rules : Rules) (w : World) (player : Nat) (r : SellRequest) (houseId : Nat)
    (deposit : Nat) (item : Item) : AuctionEntry where
  id := w.nextAuctionId
  auctioneer := if rules.twoSideInteraction then 23442 else toUInt32 r.auctioneer
  itemGuidLow := item.guid
  itemEntry := item.entry
  itemCount := item.count
  owner := player
  startbid := toUInt32 r.bid
  bid := 0
  buyout := toUInt32 r.buyout
  expireTime := r.time + rules.auctionTime r.seconds
  bidder := 0
  deposit := deposit
  houseId := houseId

/-- The accepting end of the handler: the item goes to the auction house, the stacks it was
taken from change, and the deposit is charged as an `int32`. -/
def openAuction (rules : Rules) (w : World) (player : Nat) (r : SellRequest) (faction houseId : Nat)
    (deposit : Nat) (item : Item) (left : List Item) : World × List Event :=
  let auction := newAuction rules w player r houseId deposit item
  let amount := toInt32 (-toInt32 deposit)
  ((((({ w with nextAuctionId := w.nextAuctionId + 1 } : World).setAItem item.guid
    (some item)).setAuction (rules.auctionsMap faction) auction.id (some auction)).setInventory
    player left).modifyMoney player amount,
   [.commit [.insAuction auction, .saveInventoryAndGold player],
    .commandResult (some auction) .sellItem .ok])

/-- The part of the handler that only reads the packet. -/
def checkRequest (r : SellRequest) : Except (List Event) Unit :=
  if maxAuctionItems < r.items.length then .error [.commandResult none .sellItem .databaseError]
  else if r.items.any (fun pair => pair.1 = 0 ∨ pair.2 = 0 ∨ 1000 < pair.2) then .error []
  else if r.bid = 0 ∨ r.etime = 0 then .error []
  else if Player.maxMoneyAmount < r.bid ∨ Player.maxMoneyAmount < r.buyout then
    .error [.commandResult none .sellItem .databaseError]
  else .ok ()

def checkStacks (rules : Rules) (w : World) (player : Nat) (r : SellRequest) (houseId : Nat) :
    Except AuctionError Item :=
  match checkItems w player r.items with
  | .error error => .error error
  | .ok [] => .error .databaseError
  | .ok (item :: items) =>
    if r.finalCount = 0 then .error .databaseError
    else if (item :: items).any (fun i => i.proto.getMaxStackSize < r.finalCount) then
      .error .databaseError
    else if w.money player < getAuctionDeposit rules houseId r.seconds item r.finalCount then
      .error .notEnoughMoney
    else .ok item

/-- Everything the handler checks before it changes something: the auctioneer's faction, the
auction house and the item. -/
def checkSale (rules : Rules) (w : World) (player : Nat) (r : SellRequest) :
    Except (List Event) (Nat × Nat × Item) :=
  match checkRequest r with
  | .error out => .error out
  | .ok () =>
    match r.creature with
    | none => .error []
    | some faction =>
      match rules.auctionHouseEntry faction with
      | none => .error []
      | some houseId =>
        if r.seconds = 43200 ∨ r.seconds = 86400 ∨ r.seconds = 172800 then
          match checkStacks rules w player r houseId with
          | .error error => .error [.commandResult none .sellItem error]
          | .ok item => .ok (faction, houseId, item)
        else .error []

/-- The object that `CloneItem` makes of the first item. -/
def cloneItem (w : World) (r : SellRequest) (item : Item) : Item :=
  { item with
    guid := w.nextItemGuid
    count := min r.finalCount item.proto.getMaxStackSize
    bopTradeable := false }

def handleAuctionSellItem (rules : Rules) (w : World) (player : Nat) (r : SellRequest) :
    World × List Event :=
  match checkSale rules w player r with
  | .error out => (w, out)
  | .ok (faction, houseId, item) =>
    let deposit := getAuctionDeposit rules houseId r.seconds item r.finalCount
    if r.items = [(item.guid, item.count)] then
      openAuction rules w player r faction houseId deposit item
        ((w.inventory player).filter fun i => i.guid ≠ item.guid)
    else if ¬ r.cloned then (w, [.commandResult none .sellItem .databaseError])
    else
      openAuction rules { w with nextItemGuid := w.nextItemGuid + 1 } player r faction houseId
        deposit (cloneItem w r item)
        (stillHeld (takeFromStacks r.items ((w.inventory player).map (·, true))))

/-- The bid branch. A bid over someone else's pays him back first; one's own bid is raised. -/
def raiseBid (w : World) (house : House) (player price : Nat) (auction : AuctionEntry) :
    World × List Event :=
  let own : Bool := auction.bidder = player
  let amount := if 0 < auction.bidder ∧ own then -toInt64 (toUInt64 (price - auction.bid))
    else -toInt64 price
  let outbidded := if 0 < auction.bidder ∧ ¬ own then sendAuctionOutbiddedMail w auction else []
  let auction' := { auction with bidder := player, bid := toUInt32 price }
  ((w.modifyMoney player amount).setAuction house auction.id (some auction'),
   [.commandResult (some auction') .placeBid .ok,
    .commit (outbidded ++ [.updAuctionBid player (toUInt32 price) auction.id,
      .saveInventoryAndGold player])])

/-- The buyout branch. -/
def buyOut (rules : Rules) (w : World) (house : House) (player : Nat) (auction : AuctionEntry) :
    World × List Event :=
  let own : Bool := player = auction.bidder
  let amount := if own then -toInt64 (toUInt32 (auction.buyout - auction.bid))
    else -toInt64 auction.buyout
  let outbidded := if ¬ own ∧ auction.bidder ≠ 0 then sendAuctionOutbiddedMail w auction else []
  let auction' := { auction with bidder := player, bid := auction.buyout }
  (closeAuction (w.modifyMoney player amount) auction' house,
   [.commandResult (some auction') .placeBid .ok,
    .commit (outbidded ++ sendAuctionSalePendingMail w auction' ++
      sendAuctionSuccessfulMail rules w auction' ++ sendAuctionWonMail w auction' ++
      [.delAuction auction.id, .saveInventoryAndGold player])])

def handleAuctionPlaceBid (rules : Rules) (w : World) (player auctionId price : Nat)
    (creature : Option Nat) : World × List Event :=
  if auctionId = 0 ∨ price = 0 then (w, [])
  else
    match creature with
    | none => (w, [])
    | some faction =>
      let house := rules.auctionsMap faction
      match w.auctions house auctionId with
      | none => (w, [.commandResult none .placeBid .bidOwn])
      | some auction =>
        if auction.owner = player then (w, [.commandResult none .placeBid .bidOwn])
        else if price ≤ auction.bid ∨ price < auction.startbid then (w, [])
        else if (price < auction.buyout ∨ auction.buyout = 0) ∧
            price < toUInt32 (auction.bid + auction.getAuctionOutBid rules) then
          (w, [.commandResult (some auction) .placeBid .higherBid])
        else if w.money player < price then
          (w, [.commandResult (some auction) .placeBid .notEnoughMoney])
        else if price < auction.buyout ∨ auction.buyout = 0 then
          raiseBid w house player price auction
        else buyOut rules w house player auction

/-- The accepting end of the handler. The bidder gets his gold back, and for that the seller
pays the house's cut; the item goes back to the seller. -/
def cancelAuction (rules : Rules) (w : World) (house : House) (player : Nat) (auction : AuctionEntry)
    (item : Item) : World × List Event :=
  let bidded : Bool := 0 < auction.bidder
  let returned := if bidded then sendAuctionCancelledToBidderMail w auction else []
  let w' := if bidded then w.modifyMoney player (-toInt64 (auction.getAuctionCut rules)) else w
  (closeAuction w' auction house,
   [.commandResult (some auction) .cancel .ok,
    .commit (returned ++ [.insMail ⟨.canceled, auction.id, player, 0, some item⟩,
      .saveInventoryAndGold player, .delAuction auction.id])])

def handleAuctionRemoveItem (rules : Rules) (w : World) (player auctionId : Nat)
    (creature : Option Nat) : World × List Event :=
  let refused := (w, [Event.commandResult none .cancel .databaseError])
  match creature with
  | none => (w, [])
  | some faction =>
    let house := rules.auctionsMap faction
    match w.auctions house auctionId with
    | none => refused
    | some auction =>
      if auction.owner ≠ player then refused
      else
        match w.aItems auction.itemGuidLow with
        | none => refused
        | some item =>
          if 0 < auction.bidder ∧ w.money player < auction.getAuctionCut rules then (w, [])
          else cancelAuction rules w house player auction item

/-- The body of the loop in `AuctionHouseObject::Update` for one row of the query. -/
def expireAuction (rules : Rules) (w : World) (house : House) (id : Nat) : World × List Event :=
  match w.auctions house id with
  | none => (w, [])
  | some auction =>
    let mails := if auction.bidder = 0 then sendAuctionExpiredMail w auction
      else sendAuctionSuccessfulMail rules w auction ++ sendAuctionWonMail w auction
    (closeAuction w auction house, [.commit (mails ++ [.delAuction auction.id])])

def expireAuctions (rules : Rules) (house : House) : World → List Nat → World × List Event
  | w, [] => (w, [])
  | w, id :: ids =>
    let first := expireAuction rules w house id
    let rest := expireAuctions rules house first.1 ids
    (rest.1, first.2 ++ rest.2)

/-- `AuctionHouseMgr::Update`, given the rows that each house's query returns. -/
def update (rules : Rules) (w : World) (rows : House → List Nat) : World × List Event :=
  let horde := expireAuctions rules .horde w (rows .horde)
  let alliance := expireAuctions rules .alliance horde.1 (rows .alliance)
  let neutral := expireAuctions rules .neutral alliance.1 (rows .neutral)
  (neutral.1, horde.2 ++ alliance.2 ++ neutral.2)

inductive Input
  | sellItem (player : Nat) (request : SellRequest)
  | placeBid (player auctionId price : Nat) (creature : Option Nat)
  | removeItem (player auctionId : Nat) (creature : Option Nat)
  | update (rows : House → List Nat)
  /-- A character is deleted; its guid is never given to another one. -/
  | deleteCharacter (player : Nat)
  /-- The rest of the game changes a wallet and an inventory and makes new items. -/
  | elsewhere (player money : Nat) (items : List Item) (nextItemGuid : Nat)

/-- Requests come from players who are there. -/
def step (rules : Rules) (w : World) : Input → World × List Event
  | .sellItem player request =>
    if w.character player then handleAuctionSellItem rules w player request else (w, [])
  | .placeBid player auctionId price creature =>
    if w.character player then handleAuctionPlaceBid rules w player auctionId price creature
    else (w, [])
  | .removeItem player auctionId creature =>
    if w.character player then handleAuctionRemoveItem rules w player auctionId creature
    else (w, [])
  | .update rows => update rules w rows
  | .deleteCharacter player =>
    ({ w with character := Function.update w.character player false }, [])
  | .elsewhere player money items nextItemGuid =>
    if money ≤ Player.maxMoneyAmount ∧ w.nextItemGuid ≤ nextItemGuid ∧
        ∀ item ∈ items, item.guid < nextItemGuid then
      ({ w with
        money := Function.update w.money player money
        inventory := Function.update w.inventory player items
        nextItemGuid := nextItemGuid }, [])
    else (w, [])

end OpenWoW.Auction
