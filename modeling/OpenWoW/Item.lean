import OpenWoW.Money

/-! Item templates and item objects, as far as the handlers read them. -/
namespace OpenWoW

structure ItemTemplate where
  itemId : Nat
  stackable : Int
  sellPrice : Nat
  duration : Nat
  /-- `ITEM_PROTO_FLAG_CONJURED`. -/
  conjured : Bool
  /-- `ITEM_PROTO_FLAG_BIND_TO_ACCOUNT`. -/
  bindToAccount : Bool
  /-- The bonding is `NO_BIND`. -/
  noBind : Bool
  deriving DecidableEq, Repr

/-- Zero, negative and the largest `int32` all stand for "no limit". -/
def ItemTemplate.getMaxStackSize (proto : ItemTemplate) : Nat :=
  if proto.stackable = 2147483647 ∨ proto.stackable ≤ 0 then 0x7FFFFFFF - 1
  else proto.stackable.toNat

structure Item where
  guid : Nat
  proto : ItemTemplate
  count : Nat
  duration : Nat
  soulBound : Bool
  /-- `ITEM_FLAG_BOP_TRADEABLE`. -/
  bopTradeable : Bool
  wrapped : Bool
  /-- The rest of `CanBeTraded`: not being looted, not a bag in use, can be taken off and not
  bound by an enchantment. -/
  transferable : Bool
  notEmptyBag : Bool
  deriving DecidableEq, Repr

namespace Item

def entry (item : Item) : Nat := item.proto.itemId

def isBoundAccountWide (item : Item) : Bool := item.proto.bindToAccount

def canBeTraded (item : Item) (mail trade : Bool) : Bool :=
  item.transferable &&
    !((!mail || !item.isBoundAccountWide) && item.soulBound && (!item.bopTradeable || !trade))

end Item

/-- A stack of linen cloth. -/
def plainItem (guid count : Nat) : Item where
  guid := guid
  proto :=
    { itemId := 2589, stackable := 20, sellPrice := 13, duration := 0, conjured := false,
      bindToAccount := false, noBind := true }
  count := count
  duration := 0
  soulBound := false
  bopTradeable := false
  wrapped := false
  transferable := true
  notEmptyBag := false

end OpenWoW
