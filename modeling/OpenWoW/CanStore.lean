import OpenWoW.Inventory

/-! `Player::CanStoreItem`: where an item would go. -/
namespace OpenWoW.Storage

open List

inductive InventoryResult where
  | ok | bagInBag | wrongBagType | itemMaxCount | cantStack | notEquippable | cantSwap
  | itemNotFound | dropBoundItem | destroyNonemptyBag | notOwner | lootGone | invFull | bankFull
  | itemMaxLimitCategoryCountExceededIs
  deriving DecidableEq, Repr

abbrev itemClassContainer : Nat := 1
abbrev itemClassQuiver : Nat := 11
abbrev itemSubclassContainer : Nat := 0

/-- The families that a container of a subclass takes; a plain container takes everything. -/
def containerFamily (subClass : Nat) : Option Nat :=
  match subClass with
  | 1 => some 0x4
  | 2 => some 0x20
  | 3 => some 0x40
  | 4 => some 0x80
  | 5 => some 0x200
  | 6 => some 0x400
  | 7 => some 0x8
  | 8 => some 0x10
  | 9 => some 0x8000
  | _ => none

def quiverFamily (subClass : Nat) : Option Nat :=
  match subClass with
  | 2 => some 0x1
  | 3 => some 0x2
  | _ => none

namespace StorageTemplate

/-- A container that is not for one kind of item only. -/
def plainContainer (proto : StorageTemplate) : Bool :=
  proto.itemClass == itemClassContainer && proto.subClass == itemSubclassContainer

end StorageTemplate

def itemCanGoIntoBag (proto bagProto : StorageTemplate) : Bool :=
  if bagProto.itemClass = itemClassContainer then
    bagProto.subClass == itemSubclassContainer ||
      (containerFamily bagProto.subClass).any fun mask => proto.bagFamily &&& mask != 0
  else if bagProto.itemClass = itemClassQuiver then
    (quiverFamily bagProto.subClass).any fun mask => proto.bagFamily &&& mask != 0
  else false

def StoredItem.canBeMergedPartlyWith (item : StoredItem) (proto : StorageTemplate) :
    InventoryResult :=
  if item.lootGenerated then .lootGone
  else if item.entry ≠ proto.itemId then .cantStack
  else if proto.getMaxStackSize ≤ item.count then .cantStack
  else .ok

namespace Inventory

variable (mgr : ObjectMgr) (inv : Inventory)

/-- The second component is `no_space_count`, where the call sets it. -/
def canTakeMoreSimilarItems (entry count : Nat) (item : Option SrcItem) :
    InventoryResult × Nat :=
  match mgr.getItemTemplate entry with
  | none => (.itemMaxCount, count)
  | some proto =>
    if item.any (·.item.lootGenerated) then (.lootGone, 0)
    else if (proto.maxCount ≤ 0 ∧ proto.itemLimitCategory = 0) ∨ proto.maxCount = 2147483647 then
      (.ok, 0)
    else
      let curcount := inv.getItemCount mgr proto.itemId true item
      if 0 < proto.maxCount ∧ toUInt32 proto.maxCount < toUInt32 (curcount + count) then
        (.itemMaxCount, toUInt32 (count + curcount - proto.maxCount))
      else if proto.itemLimitCategory = 0 then (.ok, 0)
      else match mgr.lookupLimitCategory proto.itemLimitCategory with
        | none => (.notEquippable, count)
        | some limit =>
          let curcount := inv.getItemCountWithLimitCategory mgr proto.itemLimitCategory item
          if limit.have_ ∧ toUInt32 limit.maxCount < toUInt32 (curcount + count) then
            (.itemMaxLimitCategoryCountExceededIs, toUInt32 (count + curcount - limit.maxCount))
          else (.ok, 0)

end Inventory

/-- What a search has planned so far, and how much is left. -/
structure Search where
  dest : List (Pos × Nat)
  count : Nat

namespace Search

/-- `newPosition` is added unless the position is in the plan already. -/
def add (s : Search) (pos : Pos) (space : Nat) : Search :=
  let need := min space s.count
  if pos ∈ s.dest.map Prod.fst then s
  else { dest := s.dest ++ [(pos, need)], count := s.count - need }

end Search

/-- What is fixed while one item is placed. -/
structure Request where
  mgr : ObjectMgr
  inv : Inventory
  proto : StorageTemplate
  item : Option SrcItem
  /-- The position asked for. -/
  bag : Nat
  slot : Nat

namespace Request

variable (r : Request)

/-- `IsNotEmptyBag` of the item that is moved, if there is one. -/
def notEmptyBag : Bool := r.item.any (·.isNotEmptyBag r.mgr r.inv)

/-- `pItem2`: the slot of the moved item itself counts as empty. -/
def found (pos : Pos) : Option StoredItem := r.inv.itemUnless r.mgr r.item pos

/-- The room at a position in a pass over stacks (`merge`) or over empty slots. -/
def space (merge : Bool) (pos : Pos) : Option Nat :=
  match r.found pos with
  | some found =>
    if merge ∧ found.canBeMergedPartlyWith r.proto = .ok then
      some (r.proto.getMaxStackSize - found.count)
    else none
  | none => if merge then none else some r.proto.getMaxStackSize

/-- The loop over positions of `CanStoreItem_InBag` and `CanStoreItem_InInventorySlots`. -/
def fill (merge : Bool) (places : List Pos) (s : Search) : Search :=
  match places with
  | [] => s
  | pos :: rest =>
    match r.space merge pos with
    | none => fill merge rest s
    | some space =>
      if pos ∈ s.dest.map Prod.fst then fill merge rest s
      else
        let next := s.add pos space
        if next.count = 0 then next else fill merge rest next

/-- The check of `CanStoreItem_InSpecificSlot` on a slot that is taken for empty. -/
def inEmptySlot (s : Search) : Except InventoryResult Search :=
  let pos : Pos := (r.bag, r.slot)
  if r.bag = inventorySlotBag0 then
    if (buybackSlotStart ≤ r.slot ∧ r.slot < buybackSlotEnd) ∨ playerSlotEnd ≤ r.slot then
      .error .wrongBagType
    else .ok (s.add pos r.proto.getMaxStackSize)
  else match (r.inv.getBagByPos r.mgr r.bag).bind fun bag => r.mgr.getItemTemplate bag.entry with
    | none => .error .wrongBagType
    | some bagProto =>
      if bagProto.containerSlots.val ≤ r.slot ∨ ¬ itemCanGoIntoBag r.proto bagProto then
        .error .wrongBagType
      else .ok (s.add pos r.proto.getMaxStackSize)

def inSpecificSlot (swap : Bool) (s : Search) : Except InventoryResult Search :=
  let pos : Pos := (r.bag, r.slot)
  if r.notEmptyBag ∧ ¬ isBagPos pos then .error .destroyNonemptyBag
  else match if swap then none else r.found pos with
    | none => r.inEmptySlot s
    | some found =>
      match found.canBeMergedPartlyWith r.proto with
      | .ok => .ok (s.add pos (r.proto.getMaxStackSize - found.count))
      | error => .error error

/-- The pass skips `skipBag`, and the slot `r.slot` of every bag. -/
def inBag (bag skipBag : Nat) (merge nonSpecialized : Bool) (s : Search) :
    Except InventoryResult Search :=
  if bag = skipBag then .error .wrongBagType
  else match r.inv.getBagByPos r.mgr bag with
    | none => .error .wrongBagType
    | some there =>
      if r.item.bind (·.origin) = some (inventorySlotBag0, bag) then .error .wrongBagType
      else if r.notEmptyBag then .error .destroyNonemptyBag
      else match r.mgr.getItemTemplate there.entry with
        | none => .error .wrongBagType
        | some bagProto =>
          if nonSpecialized ≠ bagProto.plainContainer ∨ ¬ itemCanGoIntoBag r.proto bagProto then
            .error .wrongBagType
          else
            let slots := (List.range (there.bagSize r.mgr)).filter (· ≠ r.slot)
            .ok (r.fill merge (slots.map fun slot => (bag, slot)) s)

/-- The backpack; a position asked for there is skipped. -/
def inInventorySlots (merge : Bool) (s : Search) : Except InventoryResult Search :=
  if r.notEmptyBag then .error .destroyNonemptyBag
  else
    let skip : Pos := (r.bag, r.slot)
    let places := (bodySlots inventorySlotItemStart inventorySlotItemEnd).filter (· ≠ skip)
    .ok (r.fill merge places s)

end Request

/-- The answer of `CanStoreItem`: the plan as far as it got and `no_space_count`, which only a
refusal sets. -/
structure Outcome where
  result : InventoryResult
  dest : List (Pos × Nat)
  noSpaceCount : Nat

/-- The test after every pass: nothing is left to place. -/
def settle (noSimilar : Nat) (s : Search) : Except Outcome Search :=
  if s.count = 0 then
    if noSimilar = 0 then .error ⟨.ok, s.dest, 0⟩
    else .error ⟨.itemMaxCount, s.dest, toUInt32 (s.count + noSimilar)⟩
  else .ok s

/-- A pass whose error is the answer. -/
def strict (noSimilar : Nat) (pass : Search → Except InventoryResult Search) (s : Search) :
    Except Outcome Search :=
  match pass s with
  | .error error => .error ⟨error, s.dest, toUInt32 (s.count + noSimilar)⟩
  | .ok next => settle noSimilar next

/-- A pass whose error only means that the next one is tried. -/
def lenient (noSimilar : Nat) (pass : Search → Except InventoryResult Search) (s : Search) :
    Except Outcome Search :=
  match pass s with
  | .error _ => .ok s
  | .ok next => settle noSimilar next

/-- Passes that only some requests need. -/
def onlyIf (condition : Prop) [Decidable condition] (passes : Search → Except Outcome Search)
    (s : Search) : Except Outcome Search :=
  if condition then passes s else .ok s

namespace Request

variable (r : Request)

/-- Over the equipped bags in their order. -/
def inBags (noSimilar : Nat) (merge nonSpecialized : Bool) (s : Search) : Except Outcome Search :=
  (List.range' inventorySlotBagStart (inventorySlotBagEnd - inventorySlotBagStart)).foldlM
    (fun s bag => lenient noSimilar (r.inBag bag r.bag merge nonSpecialized) s) s

/-- A bag asked for is tried as a specialized and as a plain one, and none of it is skipped for
being that bag. -/
def inAskedBag (merge : Bool) (s : Search) : Except InventoryResult Search :=
  match r.inBag r.bag nullBag merge false s with
  | .ok next => .ok next
  | .error _ => r.inBag r.bag nullBag merge true s

def askedPasses (noSimilar : Nat) (s : Search) : Except Outcome Search := do
  let pass := fun merge =>
    strict noSimilar (if r.bag = inventorySlotBag0 then r.inInventorySlots merge
      else r.inAskedBag merge)
  let s ← onlyIf (r.proto.stackable ≠ 1) (pass true) s
  pass false s

def mergePasses (noSimilar : Nat) (s : Search) : Except Outcome Search := do
  let s ← strict noSimilar (r.inInventorySlots true) s
  let s ← onlyIf (r.proto.bagFamily ≠ 0) (r.inBags noSimilar true false) s
  r.inBags noSimilar true true s

/-- A bag that is not empty goes into no slot. -/
def refuseBag (s : Search) : Except Outcome Search := .error ⟨.bagInBag, s.dest, 0⟩

/-- The passes over everything. -/
def generalPasses (noSimilar : Nat) (s : Search) : Except Outcome Search := do
  let s ← onlyIf (r.proto.stackable ≠ 1) (r.mergePasses noSimilar) s
  let s ← onlyIf (r.proto.bagFamily ≠ 0) (r.inBags noSimilar false false) s
  let s ← onlyIf (r.notEmptyBag = true) refuseBag s
  let s ← strict noSimilar (r.inInventorySlots false) s
  r.inBags noSimilar false true s

/-- `CanStoreItem` once the template and the allowed amount are known. -/
def passes (swap : Bool) (noSimilar : Nat) (s : Search) : Except Outcome Search := do
  let s ← onlyIf (r.bag ≠ nullBag ∧ r.slot ≠ nullSlot)
    (strict noSimilar (r.inSpecificSlot swap)) s
  let s ← onlyIf (r.bag ≠ nullBag) (r.askedPasses noSimilar) s
  r.generalPasses noSimilar s

end Request

namespace Inventory

variable (mgr : ObjectMgr) (inv : Inventory)

def canStoreItem (bag slot entry count : Nat) (item : Option SrcItem) (swap : Bool) : Outcome :=
  match mgr.getItemTemplate entry with
  | none => ⟨if swap then .cantSwap else .itemNotFound, [], count⟩
  | some proto =>
    if item.any (·.item.lootGenerated) then ⟨.lootGone, [], count⟩
    else if item.any (·.item.isBindedNotWith mgr inv.owner) then ⟨.notOwner, [], count⟩
    else
      let similar := inv.canTakeMoreSimilarItems mgr entry count item
      if similar.1 ≠ .ok ∧ count = similar.2 then ⟨similar.1, [], similar.2⟩
      else
        let count := if similar.1 ≠ .ok then toUInt32 (count - similar.2) else count
        let request : Request := ⟨mgr, inv, proto, item, bag, slot⟩
        match request.passes swap similar.2 ⟨[], count⟩ with
        | .error outcome => outcome
        | .ok s => ⟨.invFull, s.dest, toUInt32 (s.count + similar.2)⟩

def canStoreNewItem (bag slot entry count : Nat) : Outcome :=
  inv.canStoreItem mgr bag slot entry count none false

end Inventory

namespace Request

variable (r : Request) (swap : Bool)

/-- The moved item is not the bag that holds a place. -/
def Hosted (bag : Nat) : Prop :=
  bag = inventorySlotBag0 ∨ r.item.bind (·.origin) ≠ some (inventorySlotBag0, bag)

/-- A place takes an amount: it is free, it is the one the item is swapped with, or it has a stack
of the entry with the room. -/
def Takes (pos : Pos) (amount : Nat) : Prop :=
  ((r.found pos = none ∨ (swap = true ∧ pos = (r.bag, r.slot))) ∧
      amount ≤ r.proto.getMaxStackSize) ∨
    ∃ found, r.found pos = some found ∧ found.entry = r.proto.itemId ∧
      found.count + amount ≤ r.proto.getMaxStackSize

/-- A search that has so far placed `start` less what is left. -/
structure Sound (start : Nat) (s : Search) : Prop where
  sum : (s.dest.map Prod.snd).sum + s.count = start
  distinct : (s.dest.map Prod.fst).Nodup
  holds : ∀ put ∈ s.dest, r.inv.Holds r.mgr put.1 ∧ r.Hosted put.1.1
  takes : ∀ put ∈ s.dest, 0 < put.2 ∧ r.Takes swap put.1 put.2

variable {r swap} {start : Nat} {s : Search}

theorem Sound.initial : r.Sound swap start ⟨[], start⟩ :=
  ⟨by simp, nodup_nil, by simp, by simp⟩

theorem Sound.add (sound : r.Sound swap start s) {pos : Pos} {space : Nat}
    (positive : 0 < min space s.count) (holds : r.inv.Holds r.mgr pos) (hosted : r.Hosted pos.1)
    (takes : r.Takes swap pos (min space s.count)) : r.Sound swap start (s.add pos space) := by
  unfold Search.add
  split
  · exact sound
  next fresh =>
  have total := sound.sum
  constructor
  · simp only [map_append, sum_append, map_cons, map_nil, sum_cons,
      sum_nil]
    omega
  · simp only [map_append, map_cons, map_nil]
    exact List.Nodup.append sound.distinct (nodup_singleton _)
      (by simpa [disjoint_singleton] using fresh)
  · intro put member
    rcases mem_append.mp member with old | new
    · exact sound.holds put old
    · obtain rfl := mem_singleton.mp new
      exact ⟨holds, hosted⟩
  · intro put member
    rcases mem_append.mp member with old | new
    · exact sound.takes put old
    · obtain rfl := mem_singleton.mp new
      exact ⟨positive, takes⟩

theorem merged_of_ok {found : StoredItem} {proto : StorageTemplate}
    (ok : found.canBeMergedPartlyWith proto = .ok) :
    found.entry = proto.itemId ∧ found.count < proto.getMaxStackSize := by
  unfold StoredItem.canBeMergedPartlyWith at ok
  split at ok
  · cases ok
  split at ok
  · cases ok
  next entry =>
  split at ok
  · cases ok
  · exact ⟨not_not.mp entry, by omega⟩

theorem takes_of_space {merge : Bool} {pos : Pos} {space : Nat}
    (room : r.space merge pos = some space) :
    0 < space ∧ ∀ amount, amount ≤ space → r.Takes swap pos amount := by
  unfold Request.space at room
  split at room
  · rename_i found there
    split at room
    · rename_i merges
      obtain rfl := Option.some.inj room
      have ⟨entry, less⟩ := merged_of_ok merges.2
      exact ⟨by omega, fun amount small => Or.inr ⟨found, there, entry, by omega⟩⟩
    · cases room
  · rename_i empty
    split at room
    · cases room
    · obtain rfl := Option.some.inj room
      exact ⟨getMaxStackSize_pos _, fun amount small => Or.inl ⟨Or.inl empty, small⟩⟩

end Request

end OpenWoW.Storage
