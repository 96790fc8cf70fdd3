import OpenWoW.AuctionHouse

/-! The start of the server: expired auctions are purged before the loads. -/
namespace OpenWoW.Auction

/-- A row of `auctionhouse`. -/
structure AuctionRow where
  id : Nat
  auctioneer : Nat
  itemGuid : Nat
  owner : Nat
  buyout : Nat
  time : Nat
  bidder : Nat
  bid : Nat
  startbid : Nat
  deposit : Nat
  deriving DecidableEq, Repr

/-- A row of `item_instance`. -/
structure ItemRow where
  guid : Nat
  itemEntry : Nat
  count : Nat
  duration : Nat
  soulBound : Bool
  bopTradeable : Bool
  wrapped : Bool
  boundByEnchant : Bool
  deriving DecidableEq, Repr

structure Database where
  auctionhouse : List AuctionRow
  itemInstance : List ItemRow

/-- What the loaders read from the world database. -/
structure WorldData where
  /-- `GetCreatureData`: the entry of a spawned creature. -/
  creatureData : Nat → Option Nat
  /-- `GetCreatureTemplate`: its faction template. -/
  creatureTemplate : Nat → Option Nat
  itemTemplate : Nat → Option ItemTemplate

namespace Database

def itemOf (db : Database) (guid : Nat) : Option ItemRow :=
  db.itemInstance.find? fun item => item.guid = guid

/-- The inner join of the two tables. -/
def joined (db : Database) : List (AuctionRow × ItemRow) :=
  db.auctionhouse.filterMap fun row => (db.itemOf row.itemGuid).map (row, ·)

def hiItemGuid (db : Database) : Nat := (db.itemInstance.map (·.guid)).foldr max 0 + 1

/-- The part of `SetHighestGuids` that is about the two tables: rows for items that cannot
exist are removed. -/
def cleanup (db : Database) : Database :=
  { db with auctionhouse := db.auctionhouse.filter fun row => row.itemGuid < db.hiItemGuid }

def auctionId (db : Database) : Nat := (db.auctionhouse.map (·.id)).foldr max 0 + 1

end Database

section

variable (rules : Rules) (data : WorldData)

/-- `LoadFromFieldList`, with the auctioneer's faction template. -/
def loadFromFieldList (row : AuctionRow) (item : ItemRow) : Option (Nat × AuctionEntry) := do
  let creature ← data.creatureData row.auctioneer
  let faction ← data.creatureTemplate creature
  let houseId ← rules.auctionHouseEntry faction
  return (faction,
    { id := row.id, auctioneer := row.auctioneer, itemGuidLow := row.itemGuid,
      itemEntry := item.itemEntry, itemCount := item.count, owner := row.owner,
      startbid := row.startbid, bid := row.bid, buyout := row.buyout, expireTime := row.time,
      bidder := row.bidder, deposit := row.deposit, houseId := houseId })

/-- `LoadFromDB`: as before, and the item has to be loaded already. -/
def loadFromDB (w : World) (row : AuctionRow) (item : ItemRow) : Option (Nat × AuctionEntry) := do
  let loaded ← loadFromFieldList rules data row item
  if (w.aItems row.itemGuid).isSome then return loaded else none

/-- `DeleteExpiredAuctionsAtStartup`: the transactions it commits. -/
def deleteExpiredAuctionsAtStartup (w : World) (db : Database) (curTime : Nat) : List (Nat × Event) :=
  (db.joined.filter fun row => row.1.time ≤ toUInt32 (curTime + 60)).filterMap fun row =>
    (loadFromFieldList rules data row.1 row.2).map fun loaded =>
      let auction := loaded.2
      let mails := if auction.bidder = 0 then sendAuctionExpiredMail w auction
        else sendAuctionSuccessfulMail rules w auction ++ sendAuctionWonMail w auction
      (auction.id, .commit (mails ++ [.delAuction auction.id]))

/-- The item object that `LoadFromDB` makes of a row. -/
def Item.loadFromDB (proto : ItemTemplate) (row : ItemRow) : Item where
  guid := row.guid
  proto := proto
  count := row.count
  duration := if (proto.duration = 0) = (row.duration = 0) then row.duration else proto.duration
  soulBound := row.soulBound && !proto.noBind
  bopTradeable := row.bopTradeable
  wrapped := row.wrapped
  transferable := !row.boundByEnchant
  notEmptyBag := false

/-- `LoadAuctionItems`. `AddAItem` asserts that no item is loaded twice, and a failed
assertion ends the server. -/
def loadAuctionItems (w : World) : List (AuctionRow × ItemRow) → Option World
  | [] => some w
  | (_, item) :: rows =>
    match data.itemTemplate item.itemEntry with
    | none => loadAuctionItems w rows
    | some proto =>
      if (w.aItems item.guid).isSome then none
      else loadAuctionItems (w.setAItem item.guid (some (Item.loadFromDB proto item))) rows

/-- `LoadAuctions`, with the rows it deletes. -/
def loadAuctions (w : World) : List (AuctionRow × ItemRow) → World × List Statement
  | [] => (w, [])
  | (row, item) :: rows =>
    match loadFromDB rules data w row item with
    | none =>
      let rest := loadAuctions w rows
      (rest.1, .delAuction row.id :: rest.2)
    | some (faction, auction) =>
      loadAuctions (w.setAuction (rules.auctionsMap faction) auction.id (some auction)) rows

/-- The world before anything is loaded. -/
def unloaded (db : Database) (character : Nat → Bool) (money : Nat → Nat)
    (inventory : Nat → List Item) : World where
  character := character
  money := money
  inventory := inventory
  auctions := fun _ _ => none
  aItems := fun _ => none
  nextAuctionId := db.cleanup.auctionId
  nextItemGuid := db.hiItemGuid

def purged (w : World) (db : Database) (curTime : Nat) : Database :=
  { db with
    auctionhouse := db.auctionhouse.filter fun row =>
      row.id ∉ (deleteExpiredAuctionsAtStartup rules data w db curTime).map (·.1) }

/-- The three calls in the order of `SetInitialWorldSettings`. -/
def setInitialWorldSettings (db : Database) (curTime : Nat) (character : Nat → Bool)
    (money : Nat → Nat) (inventory : Nat → List Item) : Option (World × List Event) := do
  let w := unloaded db character money inventory
  let db := db.cleanup
  let purge := deleteExpiredAuctionsAtStartup rules data w db curTime
  let rows := (purged rules data w db curTime).joined
  let w ← loadAuctionItems data w rows
  let loaded := loadAuctions rules data w rows
  return (loaded.1, purge.map (·.2) ++ if rows.isEmpty then [] else [.commit loaded.2])

end

end OpenWoW.Auction
