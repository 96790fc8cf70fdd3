import OpenWoW.Quests
import OpenWoW.Lib.Run

/-! Items that a player gets and loses, together with the quest checks on the way. -/
namespace OpenWoW.Quests

open List

open Storage

namespace PlayerState

variable (w : World) (reward : Reward) (s : PlayerState)

/-- `Player::StoreNewItem`. The amounts are added up as `uint32`. -/
def storeNewItem (dest : List (Pos × Nat)) (entry : Nat) : PlayerState :=
  let count := toUInt32 (dest.map Prod.snd).sum
  match StoredItem.create w.items s.nextGuid s.inventory.owner entry count with
  | none => s
  | some item =>
    let s := { s with nextGuid := s.nextGuid + 1 }
    let s := s.itemAddedQuestCheck w reward entry count
    let stored := s.inventory.storeItem w.items s.nextGuid dest item
    { s with nextGuid := stored.1, inventory := stored.2 }

/-- `DestroyItem` of an item that holds no other. -/
def destroyOne (s : PlayerState) (pos : Pos) : PlayerState :=
  match s.inventory.getItemByPos w.items pos with
  | none => s
  | some item =>
    let s := s.itemRemovedQuestCheck w item.entry item.count
    { s with inventory := s.inventory.set pos none }

end PlayerState

/-- `IsNotEmptyBag` of an item in its place. -/
def holdsItems (mgr : ObjectMgr) (inv : Inventory) (pos : Pos) (item : StoredItem) : Bool :=
  isBagPos pos && item.isBag mgr && inv.bagNotEmpty mgr pos.2

/-- Equipment and equipped bags. -/
def isWorn (pos : Pos) : Bool := pos.1 == inventorySlotBag0 && pos.2 < inventorySlotBagEnd

namespace PlayerState

variable (w : World) (s : PlayerState)

/-- What a bag holds is destroyed before the bag. -/
def destroyItem (pos : Pos) : PlayerState :=
  match s.inventory.getItemByPos w.items pos with
  | none => s
  | some item =>
    let s := if holdsItems w.items s.inventory pos item then
        (bagSlots pos.2).foldl (destroyOne w) s
      else s
    destroyOne w s pos

/-- Part of a stack is taken. -/
def takePart (pos : Pos) (item : StoredItem) (count left : Nat) : PlayerState :=
  let s := s.itemRemovedQuestCheck w item.entry count
  { s with inventory := s.inventory.set pos (some { item with count := left }) }

/-- The loops of `DestroyItemCount`, one after another. -/
def destroyLoop (entry count : Nat) (unequipCheck : Bool) :
    List Pos → Nat → PlayerState → PlayerState
  | [], _, s => s
  | pos :: rest, remcount, s =>
    match s.inventory.getItemByPos w.items pos with
    | none => destroyLoop entry count unequipCheck rest remcount s
    | some item =>
      if item.entry = entry ∧ item.inTrade = false then
        if toUInt32 (item.count + remcount) ≤ count then
          if isWorn pos ∧ unequipCheck ∧ w.canUnequipItem s.inventory pos = false then
            destroyLoop entry count unequipCheck rest remcount s
          else
            let remcount := toUInt32 (remcount + item.count)
            let s := s.destroyItem w pos
            if count ≤ remcount then s
            else destroyLoop entry count unequipCheck rest remcount s
        else
          s.takePart w pos item (toUInt32 (count - remcount))
            (toUInt32 (item.count - count + remcount))
      else destroyLoop entry count unequipCheck rest remcount s

end PlayerState

/-- Backpack, equipped bags, equipment, bank, bank bags. -/
def destroyOrder : List Pos :=
  bodySlots inventorySlotItemStart inventorySlotItemEnd ++
  bagContents inventorySlotBagStart inventorySlotBagEnd ++
  bodySlots 0 inventorySlotBagEnd ++
  bodySlots bankSlotItemStart bankSlotItemEnd ++
  bagContents bankSlotBagStart bankSlotBagEnd

def PlayerState.destroyItemCount (w : World) (s : PlayerState) (entry count : Nat)
    (unequipCheck : Bool) : PlayerState :=
  PlayerState.destroyLoop w entry count unequipCheck destroyOrder 0 s

/-- One gain, one loss of a whole item or of part of a stack, or one change of the wallet. -/
inductive Change where
  | gain (dest : List (Pos × Nat)) (entry : Nat)
  | loss (pos : Pos)
  | partLoss (pos : Pos) (item : StoredItem) (count left : Nat)
  | money (value : Nat)

def PlayerState.change (w : World) (reward : Reward) (s : PlayerState) : Change → PlayerState
  | .gain dest entry => s.storeNewItem w reward dest entry
  | .loss pos => s.destroyOne w pos
  | .partLoss pos item count left => s.takePart w pos item count left
  | .money value => s.setMoney w reward value

section

variable (w : World)

/-- The losses of `DestroyItem`. -/
def destroyed (inv : Inventory) (pos : Pos) : List Change :=
  match inv.getItemByPos w.items pos with
  | none => []
  | some item =>
    (if holdsItems w.items inv pos item then (bagSlots pos.2).map Change.loss else []) ++
      [.loss pos]

def afterLosses (inv : Inventory) (changes : List Change) : Inventory :=
  changes.foldl (fun inv change =>
    match change with
    | .loss pos => inv.removeItem w.items pos
    | .partLoss pos item _ left => inv.set pos (some { item with count := left })
    | _ => inv) inv

/-- The losses of `DestroyItemCount`. -/
def taken (entry count : Nat) (unequipCheck : Bool) : List Pos → Nat → Inventory → List Change
  | [], _, _ => []
  | pos :: rest, remcount, inv =>
    match inv.getItemByPos w.items pos with
    | none => taken entry count unequipCheck rest remcount inv
    | some item =>
      if item.entry = entry ∧ item.inTrade = false then
        if toUInt32 (item.count + remcount) ≤ count then
          if isWorn pos ∧ unequipCheck ∧ w.canUnequipItem inv pos = false then
            taken entry count unequipCheck rest remcount inv
          else
            let remcount := toUInt32 (remcount + item.count)
            let losses := destroyed w inv pos
            if count ≤ remcount then losses
            else losses ++ taken entry count unequipCheck rest remcount (afterLosses w inv losses)
        else
          [.partLoss pos item (toUInt32 (count - remcount))
            (toUInt32 (item.count - count + remcount))]
      else taken entry count unequipCheck rest remcount inv

variable {w} (reward : Reward)

theorem destroyOne_inventory (s : PlayerState) (pos : Pos) :
    (s.destroyOne w pos).inventory = s.inventory.removeItem w.items pos := by
  unfold PlayerState.destroyOne Inventory.removeItem
  cases s.inventory.getItemByPos w.items pos with
  | none => rfl
  | some item => simp only [(PlayerState.itemRemovedQuestCheck_same _ _).inventory]

theorem takePart_inventory (s : PlayerState) (pos : Pos) (item : StoredItem) (count left : Nat) :
    (s.takePart w pos item count left).inventory =
      s.inventory.set pos (some { item with count := left }) := by
  unfold PlayerState.takePart
  simp only [(PlayerState.itemRemovedQuestCheck_same _ _).inventory]

def Change.isLoss : Change → Prop
  | .loss _ | .partLoss _ _ _ _ => True
  | _ => False

theorem losses_inventory {losses : List Change} (s : PlayerState)
    (all : ∀ change ∈ losses, change.isLoss) :
    (losses.foldl (PlayerState.change w reward) s).inventory =
      afterLosses w s.inventory losses := by
  induction losses generalizing s with
  | nil => rfl
  | cons change rest ih =>
    have later := fun other member => all other (mem_cons_of_mem change member)
    have first := all change mem_cons_self
    rw [foldl_cons, ih _ later]
    unfold afterLosses
    rw [foldl_cons]
    cases change with
    | loss pos => simp only [PlayerState.change, destroyOne_inventory]
    | partLoss pos item count left => simp only [PlayerState.change, takePart_inventory]
    | gain dest entry => cases first
    | money value => cases first

theorem destroyed_isLoss {inv : Inventory} {pos : Pos} :
    ∀ change ∈ destroyed w inv pos, change.isLoss := by
  intro change member
  unfold destroyed at member
  split at member
  · cases member
  rcases mem_append.mp member with inside | own
  · split at inside
    · obtain ⟨_, _, rfl⟩ := mem_map.mp inside
      trivial
    · cases inside
  · obtain rfl := mem_singleton.mp own
    trivial

theorem taken_isLoss (entry count : Nat) (unequipCheck : Bool) (places : List Pos) (remcount : Nat)
    (inv : Inventory) :
    ∀ change ∈ taken w entry count unequipCheck places remcount inv, change.isLoss := by
  induction places generalizing remcount inv with
  | nil =>
    intro change member
    cases member
  | cons pos rest ih =>
    intro change member
    unfold taken at member
    split at member
    · exact ih _ _ change member
    split at member
    · split at member
      · split at member
        · exact ih _ _ change member
        · simp only at member
          split at member
          · exact destroyed_isLoss change member
          rcases mem_append.mp member with first | later
          · exact destroyed_isLoss change first
          · exact ih _ _ change later
      · obtain rfl := mem_singleton.mp member
        trivial
    · exact ih _ _ change member

theorem destroyItem_changes (s : PlayerState) (pos : Pos) :
    s.destroyItem w pos = (destroyed w s.inventory pos).foldl (PlayerState.change w reward) s := by
  unfold PlayerState.destroyItem destroyed
  cases s.inventory.getItemByPos w.items pos with
  | none => rfl
  | some item =>
    simp only [foldl_append, foldl_cons, foldl_nil]
    split
    · rw [foldl_map]
      rfl
    · rfl

theorem destroyLoop_changes (entry count : Nat) (unequipCheck : Bool) (places : List Pos)
    (remcount : Nat) (s : PlayerState) :
    s.destroyLoop w entry count unequipCheck places remcount =
      (taken w entry count unequipCheck places remcount s.inventory).foldl
        (PlayerState.change w reward) s := by
  induction places generalizing remcount s with
  | nil => rfl
  | cons pos rest ih =>
    unfold PlayerState.destroyLoop taken
    cases s.inventory.getItemByPos w.items pos with
    | none => exact ih remcount s
    | some item =>
      simp only
      split
      · split
        · split
          · exact ih remcount s
          · have after : (s.destroyItem w pos).inventory =
                afterLosses w s.inventory (destroyed w s.inventory pos) := by
              rw [destroyItem_changes reward s pos]
              exact losses_inventory reward s (destroyed_isLoss)
            split
            · exact destroyItem_changes reward s pos
            · rw [foldl_append, ← destroyItem_changes reward s pos, ih, after]
        · rfl
      · exact ih remcount s

end

end OpenWoW.Quests
