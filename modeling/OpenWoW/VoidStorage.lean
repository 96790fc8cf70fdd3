import OpenWoW.CanStoreSteps
import OpenWoW.Money

/-! The void storage: deposits and withdrawals of items. -/
namespace OpenWoW.VoidStorage

open Storage

abbrev voidStorageStoreItem : Nat := 250000
abbrev voidStorageMaxDeposit : Nat := 9
abbrev voidStorageMaxWithdraw : Nat := 9
abbrev voidStorageMaxSlot : Nat := 80

structure VoidStorageItem where
  itemId : Nat
  itemEntry : Nat
  deriving DecidableEq, Repr

/-- What a transfer reads and changes of a player. -/
structure State where
  inventory : Inventory
  voidStorageItems : Fin voidStorageMaxSlot → Option VoidStorageItem
  money : Nat
  /-- The next free item guid and the next free id of a void storage item. -/
  nextGuid : Nat
  nextItemId : Nat

end VoidStorage

namespace Storage.Inventory

variable (mgr : ObjectMgr) (inv : Inventory)

/-- Where `GetItemByGuid` looks, in its order. -/
def guidOrder : List Pos :=
  bodySlots 0 inventorySlotItemEnd ++ bodySlots bankSlotItemStart bankSlotBagEnd ++
    bagContents inventorySlotBagStart inventorySlotBagEnd ++
    bagContents bankSlotBagStart bankSlotBagEnd

def getItemByGuid (guid : Nat) : Option (Pos × StoredItem) :=
  guidOrder.findSome? fun pos =>
    ((inv.getItemByPos mgr pos).filter (·.guid == guid)).map fun item => (pos, item)

def isNotEmptyBag (pos : Pos) (item : StoredItem) : Bool :=
  isBagPos pos && item.isBag mgr && inv.bagNotEmpty mgr pos.2

/-- `DestroyItem`: what a bag holds is destroyed before the bag. -/
def destroyItem (pos : Pos) : Inventory :=
  match inv.getItemByPos mgr pos with
  | none => inv
  | some item =>
    let inv := if inv.isNotEmptyBag mgr pos item then
        (bagSlots pos.2).foldl (removeItem mgr) inv
      else inv
    inv.removeItem mgr pos

def getFreeSlots (bag : Nat) : Nat :=
  match inv.getBagByPos mgr bag with
  | none => 0
  | some item => (List.range (item.bagSize mgr)).countP fun slot =>
    (inv.items (bag, slot)).isNone

def freeBagSlots : Nat :=
  ((List.range' inventorySlotBagStart (inventorySlotBagEnd - inventorySlotBagStart)).map
    (inv.getFreeSlots mgr)).sum +
  (bodySlots inventorySlotItemStart inventorySlotItemEnd).countP fun pos =>
    (inv.getItemByPos mgr pos).isNone

/-- `SetBinding(true)` of the item at a position. -/
def bind (pos : Pos) : Inventory :=
  match inv.items pos with
  | some item => inv.set pos (some { item with soulBound := true })
  | none => inv

end Storage.Inventory

namespace VoidStorage

open Storage

def allSlots : List (Fin voidStorageMaxSlot) := List.finRange voidStorageMaxSlot

abbrev Deposit := VoidStorageItem × Option (Fin voidStorageMaxSlot)

inductive TransferError where
  | full | inventoryFull | notEnoughMoney
  deriving DecidableEq, Repr

/-- The answer: none at all, an error, or the items that were deposited and withdrawn. -/
inductive Answer where
  | ignored
  | error (e : TransferError)
  | changes (depositItems : List Deposit) (withdrawItems : List VoidStorageItem)

structure TransferRequest where
  /-- The player stands at a void storage keeper. -/
  atVaultkeeper : Bool
  unlocked : Bool
  itemGuids : List Nat
  itemIds : List Nat

namespace State

variable (mgr : ObjectMgr) (s : State)

def getNextVoidStorageFreeSlot : Option (Fin voidStorageMaxSlot) :=
  allSlots.find? fun slot => (s.voidStorageItems slot).isNone

def getNumOfVoidStorageFreeSlots : Nat :=
  allSlots.countP fun slot => (s.voidStorageItems slot).isNone

def setVoidStorageItem (slot : Fin voidStorageMaxSlot) (item : Option VoidStorageItem) : State :=
  { s with voidStorageItems := Function.update s.voidStorageItems slot item }

def addVoidStorageItem (item : VoidStorageItem) : State × Option (Fin voidStorageMaxSlot) :=
  match s.getNextVoidStorageFreeSlot with
  | some slot => (s.setVoidStorageItem slot (some item), some slot)
  | none => (s, none)

def getVoidStorageItem (id : Nat) : Option (Fin voidStorageMaxSlot × VoidStorageItem) :=
  allSlots.findSome? fun slot =>
    ((s.voidStorageItems slot).filter (·.itemId == id)).map fun item => (slot, item)

/-- One turn of the loop over the guids. -/
def deposit (guid : Nat) : State × List Deposit :=
  match s.inventory.getItemByGuid mgr guid with
  | none => (s, [])
  | some (pos, item) =>
    let itemVS : VoidStorageItem := { itemId := s.nextItemId, itemEntry := item.entry }
    let added := { s with nextItemId := s.nextItemId + 1 }.addVoidStorageItem itemVS
    ({ added.1 with inventory := added.1.inventory.destroyItem mgr pos }, [(itemVS, added.2)])

def deposits (s : State) : List Nat → State × List Deposit
  | [] => (s, [])
  | guid :: rest =>
    let first := s.deposit mgr guid
    let later := deposits first.1 rest
    (later.1, first.2 ++ later.2)

/-- `StoreNewItem` of one piece by a plan, and the binding of the last stack that it changes. -/
def storeNewItem (entry : Nat) (dest : List (Pos × Nat)) : State :=
  match StoredItem.create mgr s.nextGuid s.inventory.owner entry
      (toUInt32 (dest.map Prod.snd).sum) with
  | none => s
  | some item =>
    let stored := s.inventory.storeItem mgr (s.nextGuid + 1) dest item
    let bound := match dest.getLast? with
      | some put => stored.2.bind put.1
      | none => stored.2
    { s with nextGuid := stored.1, inventory := bound }

/-- One turn of the loop over the ids: nothing when the inventory has no room. -/
def withdraw (id : Nat) : Option (State × List VoidStorageItem) :=
  match s.getVoidStorageItem id with
  | none => some (s, [])
  | some (slot, itemVS) =>
    let plan := s.inventory.canStoreNewItem mgr nullBag nullSlot itemVS.itemEntry 1
    if plan.result ≠ .ok then none
    else some ((s.storeNewItem mgr itemVS.itemEntry plan.dest).setVoidStorageItem slot none,
      [itemVS])

/-- What the loop leaves, what was withdrawn, and whether it stopped at an item without room. -/
def withdrawals (s : State) : List Nat → State × List VoidStorageItem × Bool
  | [] => (s, [], false)
  | id :: rest =>
    match s.withdraw mgr id with
    | none => (s, [], true)
    | some first =>
      let later := withdrawals first.1 rest
      (later.1, first.2 ++ later.2.1, later.2.2)

/-- The checks before anything moves. -/
def refusal (request : TransferRequest) : Option Answer :=
  if voidStorageMaxDeposit < request.itemGuids.length then some .ignored
  else if voidStorageMaxWithdraw < request.itemIds.length then some .ignored
  else if !request.atVaultkeeper then some .ignored
  else if !request.unlocked then some .ignored
  else if s.getNumOfVoidStorageFreeSlots < request.itemGuids.length then some (.error .full)
  else if (if request.itemIds = [] then 0 else s.inventory.freeBagSlots mgr) <
      request.itemIds.length then some (.error .inventoryFull)
  else if s.money < request.itemGuids.length * voidStorageStoreItem then
    some (.error .notEnoughMoney)
  else none

def handleVoidStorageTransfer (request : TransferRequest) : State × Answer :=
  match s.refusal mgr request with
  | some answer => (s, answer)
  | none =>
    let deposited := s.deposits mgr request.itemGuids
    let cost : Int := deposited.2.length * voidStorageStoreItem
    let paid := { deposited.1 with money := (Player.modifyMoney deposited.1.money (-cost)).1 }
    let withdrawn := paid.withdrawals mgr request.itemIds
    (withdrawn.1,
      if withdrawn.2.2 then .error .inventoryFull
      else .changes deposited.2 withdrawn.2.1)

end State

end VoidStorage

end OpenWoW
