import OpenWoW.Item
import OpenWoW.Lib.Stock
import Mathlib.Data.List.Nodup

/-! A player's storage: positions, bags, counting and storing. -/
namespace OpenWoW.Storage

open List Function

/-- The two bytes of a position: bag and slot. -/
abbrev Pos := Nat × Nat

abbrev inventorySlotBag0 : Nat := 255
abbrev nullBag : Nat := 0
abbrev nullSlot : Nat := 255
abbrev inventorySlotBagStart : Nat := 19
abbrev inventorySlotBagEnd : Nat := 23
abbrev inventorySlotItemStart : Nat := 23
abbrev inventorySlotItemEnd : Nat := 39
abbrev bankSlotItemStart : Nat := 39
abbrev bankSlotItemEnd : Nat := 67
abbrev bankSlotBagStart : Nat := 67
abbrev bankSlotBagEnd : Nat := 74
abbrev buybackSlotStart : Nat := 74
abbrev buybackSlotEnd : Nat := 86
abbrev playerSlotEnd : Nat := 86
abbrev maxBagSize : Nat := 36

inductive Bonding where
  | noBind | bindWhenPickedUp | bindWhenEquiped | bindWhenUse | bindQuestItem | bindQuestItem1
  deriving DecidableEq, Repr

structure StorageTemplate extends ItemTemplate where
  /-- Zero or less, and the largest `int32`: any number may be owned. -/
  maxCount : Int
  /-- Zero: none. -/
  itemLimitCategory : Nat
  bagFamily : Nat
  itemClass : Nat
  subClass : Nat
  /-- `Bag::Create` refuses a bag with more slots. -/
  containerSlots : Fin (maxBagSize + 1)
  /-- The inventory type is `INVTYPE_BAG`. -/
  isBag : Bool
  bonding : Bonding
  /-- `GemProperties` is set. -/
  gemProperties : Bool
  /-- `Socket[0].Color` is set. -/
  socketed : Bool
  /-- `Stackable` is an `int32`. -/
  stackable_lt : stackable < 2 ^ 31

structure LimitCategory where
  maxCount : Nat
  /-- `ITEM_LIMIT_CATEGORY_MODE_HAVE`. -/
  have_ : Bool

/-- The templates by entry and the limit categories. -/
structure ObjectMgr where
  getItemTemplate : Nat → Option StorageTemplate
  lookupLimitCategory : Nat → Option LimitCategory
  itemId_eq : ∀ entry proto, getItemTemplate entry = some proto → proto.itemId = entry

structure StoredItem where
  guid : Nat
  entry : Nat
  count : Nat
  owner : Nat
  lootGenerated : Bool
  inTrade : Bool
  soulBound : Bool
  bopTradeable : Bool
  allowedGUIDs : List Nat
  /-- The gems in its sockets, by entry. -/
  gems : List Nat
  deriving DecidableEq, Repr

namespace StoredItem

variable (mgr : ObjectMgr) (item : StoredItem)

def isBag : Bool := (mgr.getItemTemplate item.entry).any (·.isBag)

def bagSize : Nat := (mgr.getItemTemplate item.entry).elim 0 (·.containerSlots.val)

theorem bagSize_le : item.bagSize mgr ≤ maxBagSize := by
  unfold bagSize
  cases mgr.getItemTemplate item.entry with
  | none => exact Nat.zero_le _
  | some proto => exact Nat.lt_succ_iff.mp proto.containerSlots.isLt

def getGemCountWithID (gem : Nat) : Nat := item.gems.count gem

def isBoundAccountWide : Bool := (mgr.getItemTemplate item.entry).any (·.bindToAccount)

def isBindedNotWith (player : Nat) : Bool :=
  item.soulBound && item.owner != player &&
    !(item.bopTradeable && item.allowedGUIDs.contains player) && !item.isBoundAccountWide mgr

def stack (entry : Nat) : Nat := if item.entry = entry then item.count else 0

end StoredItem

/-- Items by position. What a bag holds stands under the slot the bag is in. -/
structure Inventory where
  /-- The player's guid. -/
  owner : Nat
  items : Pos → Option StoredItem

def isBagSlot (slot : Nat) : Bool :=
  (inventorySlotBagStart ≤ slot && slot < inventorySlotBagEnd) ||
    (bankSlotBagStart ≤ slot && slot < bankSlotBagEnd)

def isBagPos (pos : Pos) : Bool := pos.1 == inventorySlotBag0 && isBagSlot pos.2

def isInventoryPos (pos : Pos) : Bool :=
  (pos.1 == inventorySlotBag0 &&
    (pos.2 == nullSlot || (inventorySlotItemStart ≤ pos.2 && pos.2 < inventorySlotItemEnd))) ||
  (inventorySlotBagStart ≤ pos.1 && pos.1 < inventorySlotBagEnd)

/-- The slots from `first` up to `last` that are in no bag. -/
def bodySlots (first last : Nat) : List Pos :=
  (List.range' first (last - first)).map fun slot => (inventorySlotBag0, slot)

def bagSlots (bag : Nat) : List Pos := (List.range maxBagSize).map fun slot => (bag, slot)

/-- What is in the bags from `first` up to `last`. -/
def bagContents (first last : Nat) : List Pos :=
  (List.range' first (last - first)).flatMap bagSlots

/-- Equipment, bags, backpack and what the bags hold. -/
def carriedPlaces : List Pos :=
  bodySlots 0 inventorySlotItemEnd ++ bagContents inventorySlotBagStart inventorySlotBagEnd

/-- The bank, its bags and what they hold. -/
def bankPlaces : List Pos :=
  bodySlots bankSlotItemStart bankSlotBagEnd ++ bagContents bankSlotBagStart bankSlotBagEnd

def allPlaces : List Pos := carriedPlaces ++ bankPlaces

namespace Inventory

variable (mgr : ObjectMgr) (inv : Inventory)

def getBagByPos (bag : Nat) : Option StoredItem :=
  if isBagSlot bag then (inv.items (inventorySlotBag0, bag)).filter (·.isBag mgr) else none

def getItemByPos (pos : Pos) : Option StoredItem :=
  if pos.1 = inventorySlotBag0 ∧ pos.2 < bankSlotBagEnd then inv.items pos
  else match inv.getBagByPos mgr pos.1 with
    | some bag => if pos.2 < bag.bagSize mgr then inv.items pos else none
    | none => none

def bagNotEmpty (slot : Nat) : Bool :=
  (bagSlots slot).any fun pos => (inv.getItemByPos mgr pos).isSome

def set (pos : Pos) (item : Option StoredItem) : Inventory :=
  { inv with items := Function.update inv.items pos item }

@[simp] theorem set_items (pos : Pos) (item : Option StoredItem) :
    (inv.set pos item).items = Function.update inv.items pos item := rfl

end Inventory

/-- An item that is to be stored, and where in the same inventory it sits: the comparison of two
item pointers is a comparison of positions. -/
structure SrcItem where
  item : StoredItem
  origin : Option Pos

def SrcItem.isNotEmptyBag (mgr : ObjectMgr) (inv : Inventory) (src : SrcItem) : Bool :=
  src.origin.any fun pos => isBagPos pos && src.item.isBag mgr && inv.bagNotEmpty mgr pos.2

namespace Inventory

variable (mgr : ObjectMgr) (inv : Inventory)

/-- `GetItemByPos`, with a skipped item taken for an empty slot. -/
def itemUnless (skip : Option SrcItem) (pos : Pos) : Option StoredItem :=
  if skip.bind (·.origin) = some pos then none else inv.getItemByPos mgr pos

def getItemCount (entry : Nat) (inBankAlso : Bool) (skipItem : Option SrcItem) : Nat :=
  let counted := carriedPlaces ++ (if inBankAlso then bankPlaces else [])
  let sockets := carriedPlaces ++
    (if inBankAlso then bodySlots bankSlotItemStart bankSlotItemEnd ++
      bagContents bankSlotBagStart bankSlotBagEnd else [])
  let gems := skipItem.any fun skip =>
    (mgr.getItemTemplate skip.item.entry).any (·.gemProperties)
  let gemsIn (item : StoredItem) : Nat :=
    if (mgr.getItemTemplate item.entry).any (·.socketed) then item.getGemCountWithID entry else 0
  toUInt32 (Stock.total (·.stack entry) counted (inv.itemUnless mgr skipItem) +
    if gems then Stock.total gemsIn sockets (inv.itemUnless mgr skipItem) else 0)

def getItemCountWithLimitCategory (limitCategory : Nat) (skipItem : Option SrcItem) : Nat :=
  toUInt32 (Stock.total
    (fun item => if (mgr.getItemTemplate item.entry).any
      (·.itemLimitCategory == limitCategory) then item.count else 0)
    allPlaces (inv.itemUnless mgr skipItem))

end Inventory

theorem isBagSlot_iff (slot : Nat) :
    isBagSlot slot = true ↔ (19 ≤ slot ∧ slot < 23) ∨ (67 ≤ slot ∧ slot < 74) := by
  simp [isBagSlot, inventorySlotBagStart, inventorySlotBagEnd, bankSlotBagStart, bankSlotBagEnd]

variable (first last bag guid : Nat)

theorem mem_bodySlots (pos : Pos) :
    pos ∈ bodySlots first last ↔ pos.1 = inventorySlotBag0 ∧ first ≤ pos.2 ∧ pos.2 < last := by
  unfold bodySlots
  rw [mem_map]
  constructor
  · rintro ⟨slot, range, rfl⟩
    have bounds := mem_range'_1.mp range
    exact ⟨rfl, by omega, by omega⟩
  · rintro ⟨bag, lower, upper⟩
    exact ⟨pos.2, mem_range'_1.mpr ⟨lower, by omega⟩, Prod.ext bag.symm rfl⟩

theorem mem_bagSlots (pos : Pos) :
    pos ∈ bagSlots bag ↔ pos.1 = bag ∧ pos.2 < maxBagSize := by
  unfold bagSlots
  rw [mem_map]
  constructor
  · rintro ⟨slot, range, rfl⟩
    exact ⟨rfl, mem_range.mp range⟩
  · rintro ⟨same, upper⟩
    exact ⟨pos.2, mem_range.mpr upper, Prod.ext same.symm rfl⟩

theorem mem_bagContents (pos : Pos) :
    pos ∈ bagContents first last ↔ first ≤ pos.1 ∧ pos.1 < last ∧ pos.2 < maxBagSize := by
  unfold bagContents
  rw [mem_flatMap]
  constructor
  · rintro ⟨bag, range, inside⟩
    have bounds := mem_range'_1.mp range
    obtain ⟨rfl, upper⟩ := (mem_bagSlots bag pos).mp inside
    exact ⟨by omega, by omega, upper⟩
  · rintro ⟨lower, upper, size⟩
    exact ⟨pos.1, mem_range'_1.mpr ⟨lower, by omega⟩, (mem_bagSlots _ _).mpr ⟨rfl, size⟩⟩

theorem bodySlots_nodup : (bodySlots first last).Nodup :=
  List.Nodup.map (fun _ _ same => congrArg Prod.snd same) nodup_range'

theorem bagSlots_nodup : (bagSlots bag).Nodup :=
  List.Nodup.map (fun _ _ same => congrArg Prod.snd same) nodup_range

theorem bagContents_nodup : (bagContents first last).Nodup := by
  apply nodup_flatMap.mpr
  constructor
  · intro bag _
    exact bagSlots_nodup bag
  · apply List.Pairwise.imp _ nodup_range'
    intro bag other apart pos inside outside
    rw [mem_bagSlots] at inside outside
    exact apart (inside.1.symm.trans outside.1)

theorem mem_carriedPlaces (pos : Pos) :
    pos ∈ carriedPlaces ↔ (pos.1 = 255 ∧ pos.2 < 39) ∨ (19 ≤ pos.1 ∧ pos.1 < 23 ∧ pos.2 < 36) := by
  simp [carriedPlaces, mem_bodySlots, mem_bagContents, inventorySlotBag0, inventorySlotItemEnd,
    inventorySlotBagStart, inventorySlotBagEnd, maxBagSize]

theorem mem_bankPlaces (pos : Pos) :
    pos ∈ bankPlaces ↔ (pos.1 = 255 ∧ 39 ≤ pos.2 ∧ pos.2 < 74) ∨
      (67 ≤ pos.1 ∧ pos.1 < 74 ∧ pos.2 < 36) := by
  simp [bankPlaces, mem_bodySlots, mem_bagContents, inventorySlotBag0, bankSlotItemStart,
    bankSlotBagStart, bankSlotBagEnd, maxBagSize]

theorem mem_allPlaces (pos : Pos) :
    pos ∈ allPlaces ↔ (pos.1 = 255 ∧ pos.2 < 74) ∨ (isBagSlot pos.1 = true ∧ pos.2 < 36) := by
  rw [allPlaces, mem_append, mem_carriedPlaces, mem_bankPlaces, isBagSlot_iff]
  omega

theorem allPlaces_nodup : allPlaces.Nodup := by
  have parts : carriedPlaces.Nodup ∧ bankPlaces.Nodup := by
    constructor
    · apply List.Nodup.append (bodySlots_nodup _ _) (bagContents_nodup _ _)
      intro pos body bags
      simp only [mem_bodySlots, mem_bagContents, inventorySlotBag0, inventorySlotBagEnd] at body bags
      omega
    · apply List.Nodup.append (bodySlots_nodup _ _) (bagContents_nodup _ _)
      intro pos body bags
      simp only [mem_bodySlots, mem_bagContents, inventorySlotBag0, bankSlotBagEnd] at body bags
      omega
  apply List.Nodup.append parts.1 parts.2
  intro pos carried banked
  rw [mem_carriedPlaces] at carried
  rw [mem_bankPlaces] at banked
  omega

namespace Inventory

variable (mgr : ObjectMgr) (inv : Inventory)

/-- A position where `GetItemByPos` looks. -/
def Holds (pos : Pos) : Prop :=
  (pos.1 = inventorySlotBag0 ∧ pos.2 < bankSlotBagEnd) ∨
    ∃ bag, inv.getBagByPos mgr pos.1 = some bag ∧ pos.2 < bag.bagSize mgr

/-- Nothing stands where `GetItemByPos` does not look. -/
def Tidy : Prop := ∀ pos, inv.items pos ≠ none → inv.Holds mgr pos

variable {mgr : ObjectMgr} {inv : Inventory}

theorem getBagByPos_slot {bag : Nat} {item : StoredItem}
    (found : inv.getBagByPos mgr bag = some item) :
    isBagSlot bag = true ∧ inv.items (inventorySlotBag0, bag) = some item ∧
      item.isBag mgr = true := by
  unfold getBagByPos at found
  split at found
  · rename_i slot
    have ⟨here, isBag⟩ := Option.filter_eq_some_iff.mp found
    exact ⟨slot, here, isBag⟩
  · cases found

theorem getItemByPos_of_holds {pos : Pos} (holds : inv.Holds mgr pos) :
    inv.getItemByPos mgr pos = inv.items pos := by
  unfold getItemByPos
  rcases holds with body | ⟨bag, found, small⟩
  · rw [if_pos body]
  split
  · rfl
  · rw [found]
    exact if_pos small

theorem holds_of_getItemByPos {pos : Pos} {item : StoredItem}
    (found : inv.getItemByPos mgr pos = some item) : inv.Holds mgr pos := by
  unfold getItemByPos at found
  split at found
  · next body => exact Or.inl body
  split at found
  · rename_i bag there
    split at found
    · next small => exact Or.inr ⟨bag, there, small⟩
    · cases found
  · cases found

theorem items_of_getItemByPos {pos : Pos} {item : StoredItem}
    (found : inv.getItemByPos mgr pos = some item) : inv.items pos = some item := by
  rw [← getItemByPos_of_holds (holds_of_getItemByPos found)]
  exact found

theorem mem_allPlaces_of_holds {pos : Pos} (holds : inv.Holds mgr pos) : pos ∈ allPlaces := by
  rw [mem_allPlaces]
  rcases holds with body | ⟨bag, found, small⟩
  · exact Or.inl body
  · have size := bag.bagSize_le mgr
    exact Or.inr ⟨(getBagByPos_slot found).1, Nat.lt_of_lt_of_le small size⟩

theorem Tidy.getItemByPos (tidy : inv.Tidy mgr) (pos : Pos) :
    inv.getItemByPos mgr pos = inv.items pos := by
  by_cases empty : inv.items pos = none
  · rw [empty]
    cases found : inv.getItemByPos mgr pos with
    | none => rfl
    | some item =>
      rw [items_of_getItemByPos found] at empty
      cases empty
  · exact getItemByPos_of_holds (tidy pos empty)

variable (mgr inv)

def total (entry : Nat) : Nat := Stock.total (·.stack entry) allPlaces inv.items

variable {mgr inv}

theorem total_set {pos : Pos} (item : Option StoredItem) (entry : Nat) (here : pos ∈ allPlaces) :
    (inv.set pos item).total entry + (inv.items pos).elim 0 (·.stack entry) =
      inv.total entry + item.elim 0 (·.stack entry) :=
  Stock.total_update _ _ _ _ _ allPlaces_nodup here

end Inventory

namespace ObjectMgr

def maxStack (mgr : ObjectMgr) (entry : Nat) : Nat :=
  (mgr.getItemTemplate entry).elim 0 (·.getMaxStackSize)

end ObjectMgr

theorem getMaxStackSize_pos (proto : ItemTemplate) : 0 < proto.getMaxStackSize := by
  unfold ItemTemplate.getMaxStackSize
  split <;> omega

theorem maxStack_lt (mgr : ObjectMgr) (entry : Nat) : mgr.maxStack entry < 2 ^ 31 := by
  unfold ObjectMgr.maxStack
  cases mgr.getItemTemplate entry with
  | none => simp
  | some proto =>
    have fits := proto.stackable_lt
    simp only [Option.elim_some, ItemTemplate.getMaxStackSize]
    split <;> omega

namespace StoredItem

variable (mgr : ObjectMgr)

/-- `Item::CreateItem`: nothing for a count of zero, and at most a full stack. -/
def create (guid owner entry count : Nat) : Option StoredItem :=
  if count < 1 then none
  else (mgr.getItemTemplate entry).map fun proto =>
    { guid := guid, entry := entry, count := min count proto.getMaxStackSize, owner := owner,
      lootGenerated := false, inTrade := false, soulBound := false, bopTradeable := false,
      allowedGUIDs := [], gems := [] }

/-- `CloneItem` copies the flags but for the refundable and the tradeable one. -/
def clone (guid owner : Nat) (item : StoredItem) (count : Nat) : Option StoredItem :=
  (create mgr guid owner item.entry count).map fun copy => { copy with soulBound := item.soulBound }

/-- The item becomes soul bound by being stored at a position. -/
def bindsAt (item : StoredItem) (pos : Pos) : Bool :=
  (mgr.getItemTemplate item.entry).any fun proto =>
    proto.bonding == .bindWhenPickedUp || proto.bonding == .bindQuestItem ||
      (proto.bonding == .bindWhenEquiped && isBagPos pos)

def bindAt (item : StoredItem) (pos : Pos) : StoredItem :=
  if item.bindsAt mgr pos then { item with soulBound := true } else item

@[simp] theorem bindAt_entry (item : StoredItem) (pos : Pos) :
    (item.bindAt mgr pos).entry = item.entry := by
  unfold bindAt
  split <;> rfl

@[simp] theorem bindAt_count (item : StoredItem) (pos : Pos) :
    (item.bindAt mgr pos).count = item.count := by
  unfold bindAt
  split <;> rfl

@[simp] theorem bindAt_guid (item : StoredItem) (pos : Pos) :
    (item.bindAt mgr pos).guid = item.guid := by
  unfold bindAt
  split <;> rfl

variable {mgr}

theorem create_some {guid owner entry count : Nat} {item : StoredItem}
    (made : create mgr guid owner entry count = some item) :
    item.entry = entry ∧ item.guid = guid ∧ item.count = min count (mgr.maxStack entry) ∧
      0 < count := by
  unfold create at made
  split at made
  · cases made
  next positive =>
  obtain ⟨proto, known, rfl⟩ := Option.map_eq_some_iff.mp made
  exact ⟨rfl, rfl, by simp [ObjectMgr.maxStack, known], by omega⟩

theorem clone_some {guid owner count : Nat} {item copy : StoredItem}
    (made : item.clone mgr guid owner count = some copy) :
    copy.entry = item.entry ∧ copy.guid = guid ∧
      copy.count = min count (mgr.maxStack item.entry) ∧ 0 < count := by
  obtain ⟨created, same, rfl⟩ := Option.map_eq_some_iff.mp made
  have facts := create_some same
  exact facts

theorem create_isSome {guid owner entry count : Nat} (positive : 0 < count)
    (known : 0 < mgr.maxStack entry) : ∃ item, create mgr guid owner entry count = some item := by
  unfold create
  rw [if_neg (by omega)]
  unfold ObjectMgr.maxStack at known
  cases there : mgr.getItemTemplate entry with
  | none => simp [there] at known
  | some proto => exact ⟨_, rfl⟩

theorem clone_isSome {guid owner count : Nat} (item : StoredItem) (positive : 0 < count)
    (known : 0 < mgr.maxStack item.entry) : ∃ copy, item.clone mgr guid owner count = some copy := by
  obtain ⟨created, made⟩ := @create_isSome mgr guid owner item.entry count positive known
  exact ⟨_, by unfold clone; rw [made]; rfl⟩

end StoredItem

namespace Inventory

variable (mgr : ObjectMgr)

/-- Where an item object is put: without a bag at the bag's slot it goes under the slot number
itself. (The guid check that keeps a bag out of itself never refuses: an item that is being
stored is no longer in the bag slot.) -/
def place (inv : Inventory) (pos : Pos) (item : StoredItem) : Inventory :=
  if pos.1 = inventorySlotBag0 then inv.set pos (some { item with owner := inv.owner })
  else match inv.getBagByPos mgr pos.1 with
    | none => inv.set (inventorySlotBag0, pos.2) (some { item with owner := inv.owner })
    | some bag => inv.set pos (some { item with owner := bag.owner })

/-- `Player::_StoreItem`, with the next free guid. -/
def storeItemAt (guid : Nat) (inv : Inventory) (pos : Pos) (item : StoredItem) (count : Nat)
    (clone : Bool) : Nat × Inventory :=
  match inv.getItemByPos mgr pos with
  | some found =>
    let bound := found.bindAt mgr pos
    (guid, inv.set pos (some { bound with count := toUInt32 (bound.count + count) }))
  | none =>
    if clone then
      match item.clone mgr guid inv.owner count with
      | some copy => (guid + 1, inv.place mgr pos (copy.bindAt mgr pos))
      | none => (guid, inv)
    else (guid, inv.place mgr pos (({ item with count := count } : StoredItem).bindAt mgr pos))

/-- `Player::StoreItem`: all but the last amount are stored as clones. -/
def storeItem (guid : Nat) (inv : Inventory) (dest : List (Pos × Nat)) (item : StoredItem) :
    Nat × Inventory :=
  match dest with
  | [] => (guid, inv)
  | put :: rest =>
    let stored := inv.storeItemAt mgr guid put.1 item put.2 (!rest.isEmpty)
    storeItem stored.1 stored.2 rest item

/-- `Player::RemoveItem`. What a bag holds stays under its slot. -/
def removeItem (inv : Inventory) (pos : Pos) : Inventory :=
  match inv.getItemByPos mgr pos with
  | some _ => inv.set pos none
  | none => inv

variable {mgr}

/-- A plan that an inventory has the room for: distinct places, each empty or with a stack of the
entry that can take its amount. -/
structure Fits (mgr : ObjectMgr) (inv : Inventory) (entry : Nat) (dest : List (Pos × Nat)) :
    Prop where
  distinct : (dest.map Prod.fst).Nodup
  holds : ∀ put ∈ dest, inv.Holds mgr put.1
  room : ∀ put ∈ dest, 0 < put.2 ∧ (inv.items put.1).elim 0 (·.count) + put.2 ≤ mgr.maxStack entry
  same : ∀ put ∈ dest, ∀ found, inv.items put.1 = some found → found.entry = entry

def Landed (entry : Nat) (found : Option StoredItem) (amount : Nat) (stack : StoredItem) : Prop :=
  stack.entry = entry ∧ stack.count = found.elim 0 (·.count) + amount ∧
    ∀ old, found = some old → old.entry = entry ∧ stack.guid = old.guid

variable {pos : Pos}

theorem Holds.set {inv : Inventory} {place : Pos} (holds : inv.Holds mgr place)
    {item : Option StoredItem}
    (keeps : ∀ bag, inv.getBagByPos mgr place.1 = some bag →
      pos = (inventorySlotBag0, place.1) →
      ∃ other, item = some other ∧ other.isBag mgr = true ∧ bag.bagSize mgr ≤ other.bagSize mgr) :
    (inv.set pos item).Holds mgr place := by
  rcases holds with body | ⟨bag, found, small⟩
  · exact Or.inl body
  have ⟨slot, here, isBag⟩ := getBagByPos_slot found
  by_cases same : pos = (inventorySlotBag0, place.1)
  · obtain ⟨other, rfl, otherBag, larger⟩ := keeps bag found same
    refine Or.inr ⟨other, ?_, Nat.lt_of_lt_of_le small larger⟩
    unfold getBagByPos
    rw [if_pos slot, set_items, same, update_self, Option.filter_some_pos otherBag]
  refine Or.inr ⟨bag, ?_, small⟩
  unfold getBagByPos
  rw [if_pos slot, set_items, update_of_ne (Ne.symm same), here, Option.filter_some_pos isBag]

theorem Tidy.set {inv : Inventory} (tidy : inv.Tidy mgr) {item : Option StoredItem}
    (valid : item = none ∨ inv.Holds mgr pos)
    (keeps : ∀ place, inv.items place ≠ none → ∀ bag, inv.getBagByPos mgr place.1 = some bag →
      pos = (inventorySlotBag0, place.1) →
      ∃ other, item = some other ∧ other.isBag mgr = true ∧ bag.bagSize mgr ≤ other.bagSize mgr)
    (own : inv.Holds mgr pos → (inv.set pos item).Holds mgr pos) : (inv.set pos item).Tidy mgr := by
  intro place occupied
  rw [set_items] at occupied
  by_cases same : place = pos
  · subst same
    rw [update_self] at occupied
    exact own (valid.resolve_left occupied)
  · rw [update_of_ne same] at occupied
    exact (tidy place occupied).set (keeps place occupied)

/-- The guid of a stack that is put into an empty slot. -/
def newGuid (guid : Nat) (item : StoredItem) (clone : Bool) : Nat :=
  if clone then guid else item.guid

theorem place_of_holds {inv : Inventory} (holds : inv.Holds mgr pos) (item : StoredItem) :
    ∃ owner, inv.place mgr pos item = inv.set pos (some { item with owner := owner }) := by
  unfold place
  split
  · exact ⟨_, rfl⟩
  next inBag =>
  rcases holds with body | ⟨bag, found, _⟩
  · exact absurd body.1 inBag
  · rw [found]
    exact ⟨_, rfl⟩

variable {item : StoredItem}

/-- `_StoreItem` at a fitting place. -/
theorem storeItemAt_landed {inv : Inventory} {count : Nat} (clone : Bool)
    (holds : inv.Holds mgr pos) (positive : 0 < count)
    (room : (inv.items pos).elim 0 (·.count) + count ≤ mgr.maxStack item.entry)
    (same : ∀ found, inv.items pos = some found → found.entry = item.entry) :
    ∃ stack, (inv.storeItemAt mgr guid pos item count clone).2 = inv.set pos (some stack) ∧
      Landed item.entry (inv.items pos) count stack ∧
      (inv.items pos = none → stack.guid = newGuid guid item clone) := by
  have largest := maxStack_lt mgr item.entry
  unfold storeItemAt
  rw [getItemByPos_of_holds holds]
  cases here : inv.items pos with
  | some found =>
    rw [here] at room
    simp only [Option.elim_some] at room
    refine ⟨_, rfl, ⟨?_, ?_, ?_⟩, fun none_ => by cases none_⟩
    · simpa using same found here
    · simp only [StoredItem.bindAt_count, Option.elim_some, toUInt32]
      omega
    · intro old equal
      obtain rfl := Option.some.inj equal
      exact ⟨same found here, by simp⟩
  | none =>
    rw [here] at room
    simp only [Option.elim_none, Nat.zero_add] at room
    cases clone with
    | true =>
      obtain ⟨copy, made⟩ :=
        @StoredItem.clone_isSome mgr guid inv.owner count item positive (by omega)
      obtain ⟨entry, fresh, amount, _⟩ := StoredItem.clone_some made
      obtain ⟨owner, placed⟩ := place_of_holds holds (copy.bindAt mgr pos)
      simp only [made, if_true, placed]
      refine ⟨_, rfl, ⟨?_, ?_, fun old found => by cases found⟩, fun _ => ?_⟩
      · simpa using entry
      · simp only [StoredItem.bindAt_count, amount, Option.elim_none]
        omega
      · simpa [newGuid] using fresh
    | false =>
      obtain ⟨owner, placed⟩ := place_of_holds holds
        (({ item with count := count } : StoredItem).bindAt mgr pos)
      simp only [placed, Bool.false_eq_true, if_false]
      refine ⟨_, rfl, ⟨?_, ?_, fun old found => by cases found⟩, fun _ => ?_⟩
      · simp
      · simp
      · simp [newGuid]

theorem Landed.keeps {inv : Inventory} {place : Pos} {entry amount : Nat} {stack bag : StoredItem}
    (landed : Landed entry (inv.items pos) amount stack)
    (found : inv.getBagByPos mgr place.1 = some bag) (there : pos = (inventorySlotBag0, place.1)) :
    ∃ other, some stack = some other ∧ other.isBag mgr = true ∧
      bag.bagSize mgr ≤ other.bagSize mgr := by
  have ⟨_, here, isBag⟩ := getBagByPos_slot found
  rw [← there] at here
  have sameEntry : stack.entry = bag.entry := by
    rw [landed.1, (landed.2.2 bag here).1]
  refine ⟨stack, rfl, ?_, ?_⟩
  · unfold StoredItem.isBag at isBag ⊢
    rw [sameEntry]
    exact isBag
  · unfold StoredItem.bagSize
    rw [sameEntry]

theorem Landed.holds {inv : Inventory} {place : Pos} {entry amount : Nat} {stack : StoredItem}
    (landed : Landed entry (inv.items pos) amount stack) (holds : inv.Holds mgr place) :
    (inv.set pos (some stack)).Holds mgr place :=
  holds.set fun _ found there => landed.keeps found there

theorem Landed.tidy {inv : Inventory} {entry amount : Nat} {stack : StoredItem}
    (landed : Landed entry (inv.items pos) amount stack) (tidy : inv.Tidy mgr)
    (holds : inv.Holds mgr pos) : (inv.set pos (some stack)).Tidy mgr :=
  tidy.set (Or.inr holds) (fun _ _ _ found there => landed.keeps found there)
    fun holds => landed.holds holds

theorem Fits.tail {inv : Inventory} {entry : Nat} {put : Pos × Nat} {rest : List (Pos × Nat)}
    {stack : StoredItem} (fits : Fits mgr inv entry (put :: rest))
    (landed : Landed entry (inv.items put.1) put.2 stack) :
    Fits mgr (inv.set put.1 (some stack)) entry rest := by
  have ⟨fresh, distinct⟩ := nodup_cons.mp fits.distinct
  have apart : ∀ other ∈ rest, (inv.set put.1 (some stack)).items other.1 = inv.items other.1 := by
    intro other member
    rw [set_items, update_of_ne]
    intro same
    exact fresh (mem_map.mpr ⟨other, member, same⟩)
  constructor
  · exact distinct
  · intro other member
    exact landed.holds (fits.holds other (mem_cons_of_mem _ member))
  · intro other member
    rw [apart other member]
    exact fits.room other (mem_cons_of_mem _ member)
  · intro other member found there
    rw [apart other member] at there
    exact fits.same other (mem_cons_of_mem _ member) found there

variable {dest : List (Pos × Nat)}

theorem storeItem_lands {inv : Inventory} (fits : Fits mgr inv item.entry dest) :
    Stock.Filled (Landed item.entry) inv.items dest (inv.storeItem mgr guid dest item).2.items ∧
      (inv.Tidy mgr → (inv.storeItem mgr guid dest item).2.Tidy mgr) := by
  induction dest generalizing inv guid with
  | nil => exact ⟨Stock.Filled.nil _, id⟩
  | cons put rest ih =>
    have here := mem_cons_self (a := put) (l := rest)
    have ⟨positive, room⟩ := fits.room put here
    obtain ⟨stack, stored, landed, _⟩ := storeItemAt_landed guid (!rest.isEmpty)
      (fits.holds put here) positive room (fits.same put here)
    unfold storeItem
    simp only
    rw [stored]
    obtain ⟨filled, tidies⟩ :=
      ih (inv.storeItemAt mgr guid put.1 item put.2 (!rest.isEmpty)).1 (fits.tail landed)
    exact ⟨Stock.Filled.cons landed filled,
      fun tidy => tidies (landed.tidy tidy (fits.holds put here))⟩

theorem storeItem_total {inv : Inventory} (fits : Fits mgr inv item.entry dest) (entry : Nat) :
    (inv.storeItem mgr guid dest item).2.total entry =
      inv.total entry + if item.entry = entry then (dest.map Prod.snd).sum else 0 := by
  have filled := (storeItem_lands guid fits).1
  have inside : ∀ place ∈ dest.map Prod.fst, place ∈ allPlaces := by
    intro place member
    obtain ⟨put, planned, rfl⟩ := mem_map.mp member
    exact mem_allPlaces_of_holds (fits.holds put planned)
  have grown := filled.total (·.stack entry)
    (fun amount => if item.entry = entry then amount else 0) allPlaces_nodup inside (by
      intro found amount stack landed
      obtain ⟨sameEntry, sum, old⟩ := landed
      cases found with
      | none => simp [StoredItem.stack, sameEntry, sum]
      | some old_ =>
        have entries := (old old_ rfl).1
        simp only [StoredItem.stack, sameEntry, sum, entries, Option.elim_some]
        split <;> omega)
  have amounts : (dest.map fun put => if item.entry = entry then put.2 else 0).sum =
      if item.entry = entry then (dest.map Prod.snd).sum else 0 := by
    by_cases wanted : item.entry = entry
    · simp only [wanted, if_true]
    · simp [wanted]
  rw [total, total, grown, amounts]

variable (mgr) in
/-- No stack is larger than its entry allows. -/
def Stacked (inv : Inventory) : Prop :=
  ∀ pos item, inv.items pos = some item → item.count ≤ mgr.maxStack item.entry

theorem storeItem_stacked {inv : Inventory} (stacked : inv.Stacked mgr)
    (fits : Fits mgr inv item.entry dest) :
    (inv.storeItem mgr guid dest item).2.Stacked mgr := by
  have filled := (storeItem_lands guid fits).1
  intro pos stack there
  by_cases planned : pos ∈ dest.map Prod.fst
  · obtain ⟨put, member, rfl⟩ := mem_map.mp planned
    obtain ⟨landed, stands, entry, sum, _⟩ := filled.landed fits.distinct put.1 member
    rw [there] at stands
    obtain rfl := Option.some.inj stands
    rw [entry, sum]
    exact (fits.room put member).2
  · rw [filled.untouched pos planned] at there
    exact stacked pos stack there

theorem removeItem_items {inv : Inventory}
    (found : inv.getItemByPos mgr pos = some item) : inv.removeItem mgr pos = inv.set pos none := by
  unfold removeItem
  rw [found]

theorem removeItem_total {inv : Inventory}
    (found : inv.getItemByPos mgr pos = some item) (entry : Nat) :
    (inv.removeItem mgr pos).total entry + item.stack entry = inv.total entry := by
  have change := @total_set inv pos none entry
    (mem_allPlaces_of_holds (holds_of_getItemByPos found))
  rw [items_of_getItemByPos found] at change
  rw [removeItem_items found]
  simpa using change

theorem removeItem_tidy {inv : Inventory} (tidy : inv.Tidy mgr)
    (holdsNothing : ∀ item, inv.getItemByPos mgr pos = some item → isBagPos pos = true →
      item.isBag mgr = true → inv.bagNotEmpty mgr pos.2 = false) :
    (inv.removeItem mgr pos).Tidy mgr := by
  cases found : inv.getItemByPos mgr pos with
  | none =>
    unfold removeItem
    rw [found]
    exact tidy
  | some item =>
    rw [removeItem_items found]
    intro place occupied
    rw [set_items] at occupied
    by_cases same : place = pos
    · subst same
      simp at occupied
    rw [update_of_ne same] at occupied
    refine (tidy place occupied).set fun bag there inside => ?_
    have ⟨slot, here, isBag⟩ := getBagByPos_slot there
    rw [← inside, items_of_getItemByPos found] at here
    obtain rfl := Option.some.inj here
    have bagPos : isBagPos pos = true := by
      rw [inside]
      simpa [isBagPos] using slot
    have nothing := holdsNothing item found bagPos isBag
    rw [inside] at nothing
    have small : place.2 < maxBagSize := by
      rcases tidy place occupied with body | ⟨other, hosts, less⟩
      · rw [body.1] at slot
        cases slot
      · exact Nat.lt_of_lt_of_le less (other.bagSize_le mgr)
    have empty := any_eq_false.mp nothing place ((mem_bagSlots _ _).mpr ⟨rfl, small⟩)
    rw [tidy.getItemByPos place] at empty
    exact absurd (Option.isSome_iff_ne_none.mpr occupied) empty

end Inventory

end OpenWoW.Storage
