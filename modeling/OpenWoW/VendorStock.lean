import OpenWoW.Lib.EntryMap
import OpenWoW.Lib.Refill
import OpenWoW.Lib.Run

/-! The limited items of a vendor: how many are left, and how purchases and looks change it. -/
namespace OpenWoW.Vendors

structure ItemTemplate where
  buyCount : Nat
  buyPrice : Int

structure VendorItem where
  item : Nat
  maxcount : Nat
  incrtime : Nat
  /-- `IsGoldRequired` of the item. -/
  goldRequired : Bool

/-- What is kept of an item that is not full. The item is its key in the list. -/
structure VendorItemCount where
  count : Nat
  lastIncrementTime : Nat
  deriving DecidableEq

abbrev VendorItemCounts := EntryMap.Map Nat VendorItemCount

/-- A vendor whose items have templates, and a time to restock where they are limited. -/
structure Vendor where
  items : List VendorItem
  getItemTemplate : Nat → Option ItemTemplate
  templates : ∀ vItem ∈ items, (getItemTemplate vItem.item).isSome
  incrtimes : ∀ vItem ∈ items, 0 < vItem.maxcount → 0 < vItem.incrtime

/-- An unsigned value of 32 bits. -/
def uint32 (n : Nat) : Nat := n % 2 ^ 32

/-- `count + diff * BuyCount` with the full periods since the last increment. -/
def VendorItemCount.restocked (vCount : VendorItemCount) (vItem : VendorItem)
    (pProto : ItemTemplate) (ptime : Nat) : Nat :=
  let diff := uint32 ((ptime - vCount.lastIncrementTime) / vItem.incrtime)
  uint32 (vCount.count + diff * pProto.buyCount)

section

variable (getItemTemplate : Nat → Option ItemTemplate)

def getVendorItemCurrentCount (ptime : Nat) (vItem : VendorItem) (counts : VendorItemCounts) :
    VendorItemCounts × Nat :=
  if vItem.maxcount = 0 then (counts, vItem.maxcount)
  else
    match counts.lookup vItem.item with
    | none => (counts, vItem.maxcount)
    | some vCount =>
      if vCount.lastIncrementTime + vItem.incrtime ≤ ptime then
        match getItemTemplate vItem.item with
        | some pProto =>
          let restocked := vCount.restocked vItem pProto ptime
          if vItem.maxcount ≤ restocked then (counts.erase vItem.item, vItem.maxcount)
          else (counts.insert vItem.item ⟨restocked, ptime⟩, restocked)
        | none => (counts, vCount.count)
      else (counts, vCount.count)

/-- The count that a purchase finds. -/
def currentCount (ptime : Nat) (vItem : VendorItem) (vCount : VendorItemCount) : Nat :=
  if vCount.lastIncrementTime + vItem.incrtime ≤ ptime then
    match getItemTemplate vItem.item with
    | some pProto =>
      let restocked := vCount.restocked vItem pProto ptime
      if restocked < vItem.maxcount then restocked else vItem.maxcount
    | none => vCount.count
  else vCount.count

def updateVendorItemCurrentCount (ptime : Nat) (vItem : VendorItem) (usedCount : Nat)
    (counts : VendorItemCounts) : VendorItemCounts × Nat :=
  if vItem.maxcount = 0 then (counts, 0)
  else
    match counts.lookup vItem.item with
    | none =>
      let newCount := vItem.maxcount - usedCount
      (counts.insert vItem.item ⟨newCount, ptime⟩, newCount)
    | some vCount =>
      let count := currentCount getItemTemplate ptime vItem vCount
      (counts.insert vItem.item ⟨count - usedCount, ptime⟩, count - usedCount)

end

def maxMoneyAmount : Nat := 9999999999

/-- The count of a purchase after the check that its price is no more than a player can have. -/
def boughtCount (vItem : VendorItem) (pProto : ItemTemplate) (count : Nat) : Nat :=
  if vItem.goldRequired ∧ 0 < pProto.buyPrice then
    let maxCount := uint32 (maxMoneyAmount / pProto.buyPrice.toNat)
    if maxCount < count then maxCount % 2 ^ 8 else count
  else count

/-- A purchase of nothing is one of a single item. -/
def askedCount (count : UInt8) : Nat := if count.toNat < 1 then 1 else count.toNat

/-- What the check of the stock asks for. -/
def checkedCount (pProto : ItemTemplate) (count : Nat) : Nat := uint32 (pProto.buyCount * count)

/-- `BuyItemFromVendorSlot` at an item of the vendor. `granted` is whether the checks after that
of the stock let the purchase through. The answers are those of the two functions, in the order
of their calls. -/
def buyItemFromVendorSlot (vendor : Vendor) (ptime : Nat) (vItem : VendorItem) (count : UInt8)
    (granted : Bool) (counts : VendorItemCounts) : VendorItemCounts × List Nat :=
  let count := askedCount count
  match vendor.getItemTemplate vItem.item with
  | none => (counts, [])
  | some pProto =>
    let buy (counts : VendorItemCounts) (answers : List Nat) : VendorItemCounts × List Nat :=
      if granted then
        let (counts, newCount) := updateVendorItemCurrentCount vendor.getItemTemplate ptime vItem
          (boughtCount vItem pProto count) counts
        (counts, answers ++ [newCount])
      else (counts, answers)
    if vItem.maxcount ≠ 0 then
      let (counts, left) := getVendorItemCurrentCount vendor.getItemTemplate ptime vItem counts
      if left < checkedCount pProto count then (counts, [left]) else buy counts [left]
    else buy counts []

/-- What players do at a vendor. Some of the looks are additional ones. -/
inductive Act where
  | look (slot : Nat) (additional : Bool)
  | buy (slot : Nat) (count : UInt8) (granted : Bool)

structure Event where
  time : Nat
  act : Act

def Event.additional (event : Event) : Bool :=
  match event.act with
  | .look _ additional => additional
  | .buy _ _ _ => false

def step (vendor : Vendor) (counts : VendorItemCounts) (event : Event) :
    VendorItemCounts × List Nat :=
  match event.act with
  | .look slot _ =>
    match vendor.items[slot]? with
    | none => (counts, [])
    | some vItem =>
      let (counts, left) :=
        getVendorItemCurrentCount vendor.getItemTemplate event.time vItem counts
      (counts, [left])
  | .buy slot count granted =>
    match vendor.items[slot]? with
    | none => (counts, [])
    | some vItem => buyItemFromVendorSlot vendor event.time vItem count granted counts

end OpenWoW.Vendors
