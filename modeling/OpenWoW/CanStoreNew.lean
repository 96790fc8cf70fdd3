import OpenWoW.CanStoreSteps

/-! What `CanStoreNewItem` counts: the amounts it plans and what it has no space for. -/
namespace OpenWoW.Storage

open Option

theorem excess_eq {owned count : Nat} {limit : Int} (above : toUInt32 limit <
    toUInt32 ((owned : Int) + count)) : toUInt32 ((count : Int) + owned - limit) =
      toUInt32 ((owned : Int) + count) - toUInt32 limit := by
  unfold toUInt32 at above ⊢
  omega

theorem excess_le_iff {owned count : Nat} {limit : Int} (small : owned < 2 ^ 32)
    (smallCount : count < 2 ^ 32) (above : toUInt32 limit < toUInt32 ((owned : Int) + count)) :
    toUInt32 ((count : Int) + owned - limit) ≤ count ↔
      (owned + count < 2 ^ 32 → owned ≤ toUInt32 limit) := by
  rw [excess_eq above]
  unfold toUInt32 at above ⊢
  omega

theorem not_above_of_within {owned count : Nat} {limit : Int} (small : owned < 2 ^ 32)
    (below : ¬toUInt32 limit < toUInt32 ((owned : Int) + count)) :
    owned + count < 2 ^ 32 → owned ≤ toUInt32 limit := by
  unfold toUInt32 at below ⊢
  omega

namespace Inventory

variable (mgr : ObjectMgr) (inv : Inventory)

theorem getItemCount_lt (entry : Nat) (inBankAlso : Bool) (skipItem : Option SrcItem) :
    inv.getItemCount mgr entry inBankAlso skipItem < 2 ^ 32 := by
  unfold getItemCount toUInt32
  simp only
  omega

theorem getItemCountWithLimitCategory_lt (limitCategory : Nat) (skipItem : Option SrcItem) :
    inv.getItemCountWithLimitCategory mgr limitCategory skipItem < 2 ^ 32 := by
  unfold getItemCountWithLimitCategory toUInt32
  omega

/-- The player owns no more of an entry, and of its category, than may be owned, as far as the call
comes to look at it; more than `uint32` has room for is not noticed. -/
def WithinLimits (entry count : Nat) : Prop :=
  ∀ proto, mgr.getItemTemplate entry = some proto →
    ¬((proto.maxCount ≤ 0 ∧ proto.itemLimitCategory = 0) ∨ proto.maxCount = 2147483647) →
    (0 < proto.maxCount → inv.getItemCount mgr entry true none + count < 2 ^ 32 →
      inv.getItemCount mgr entry true none ≤ toUInt32 proto.maxCount) ∧
    (¬(0 < proto.maxCount ∧ toUInt32 proto.maxCount <
        toUInt32 ((inv.getItemCount mgr entry true none : Int) + count)) →
      ∀ limit, proto.itemLimitCategory ≠ 0 →
        mgr.lookupLimitCategory proto.itemLimitCategory = some limit → limit.have_ = true →
        inv.getItemCountWithLimitCategory mgr proto.itemLimitCategory none + count < 2 ^ 32 →
        inv.getItemCountWithLimitCategory mgr proto.itemLimitCategory none ≤
          toUInt32 limit.maxCount)

/-- What `CanStoreItem` takes off the count before it looks for places. -/
def similarTaken (entry count : Nat) : Nat :=
  let similar := inv.canTakeMoreSimilarItems mgr entry count none
  if similar.1 ≠ .ok ∧ count ≠ similar.2 then similar.2 else 0

/-- No subtraction of a call wraps: not that of a limit, nor that of a stack from the largest one, nor
those from the count, which take off the similar items and then each amount of the plan. -/
structure NoWrap (entry count : Nat) (dest : List (Pos × Nat)) : Prop where
  limit : ∀ proto, mgr.getItemTemplate entry = some proto →
    (inv.canTakeMoreSimilarItems mgr entry count none).1 = .itemMaxCount →
    toUInt32 proto.maxCount ≤ toUInt32 ((inv.getItemCount mgr entry true none : Int) + count)
  category : ∀ proto limit, mgr.getItemTemplate entry = some proto →
    mgr.lookupLimitCategory proto.itemLimitCategory = some limit →
    (inv.canTakeMoreSimilarItems mgr entry count none).1 = .itemMaxLimitCategoryCountExceededIs →
    toUInt32 limit.maxCount ≤ toUInt32
      ((inv.getItemCountWithLimitCategory mgr proto.itemLimitCategory none : Int) + count)
  stack : ∀ proto pos found, mgr.getItemTemplate entry = some proto →
    inv.itemUnless mgr none pos = some found → found.canBeMergedPartlyWith proto = .ok →
    found.count ≤ proto.getMaxStackSize
  counts : inv.similarTaken mgr entry count + (dest.map Prod.snd).sum ≤ count

/-- The amounts of a plan and what has no space are the whole count. -/
def Counted (count : Nat) (outcome : Outcome) : Prop :=
  (outcome.dest.map Prod.snd).sum + outcome.noSpaceCount = count

variable {mgr inv} {entry count : Nat}

theorem taken_le_iff {similar : InventoryResult × Nat} (refused : similar.1 ≠ .ok) :
    (if similar.1 ≠ .ok ∧ count ≠ similar.2 then similar.2 else 0) ≤ count ↔ similar.2 ≤ count := by
  by_cases same : count = similar.2
  · rw [if_neg fun both => both.2 same]
    exact iff_of_true (Nat.zero_le _) (Nat.le_of_eq same.symm)
  · rw [if_pos ⟨refused, same⟩]

/-- The count stands for the similar items just when the limits are kept. -/
theorem canTakeMore_within_iff (small : count < 2 ^ 32) :
    inv.similarTaken mgr entry count ≤ count ↔ inv.WithinLimits mgr entry count := by
  unfold similarTaken canTakeMoreSimilarItems WithinLimits
  cases known : mgr.getItemTemplate entry with
  | none =>
    rw [if_neg fun both => both.2 rfl]
    exact iff_of_true (Nat.zero_le _) fun _ absent => nomatch absent
  | some proto =>
    have id_ := mgr.itemId_eq entry proto known
    simp only [any_none, Bool.false_eq_true, if_false, some.injEq, forall_eq', id_]
    by_cases unlimited : (proto.maxCount ≤ 0 ∧ proto.itemLimitCategory = 0) ∨
        proto.maxCount = 2147483647
    · rw [if_pos unlimited, if_neg fun both => both.1 rfl]
      exact iff_of_true (Nat.zero_le _) fun limited => absurd unlimited limited
    have ownedSmall := inv.getItemCount_lt mgr entry true none
    have similarSmall := inv.getItemCountWithLimitCategory_lt mgr proto.itemLimitCategory none
    generalize inv.getItemCount mgr entry true none = owned at ownedSmall ⊢
    generalize inv.getItemCountWithLimitCategory mgr proto.itemLimitCategory none = similar
      at similarSmall ⊢
    rw [if_neg unlimited, imp_iff_right unlimited]
    by_cases exceeds : 0 < proto.maxCount ∧ toUInt32 proto.maxCount < toUInt32 ((owned : Int) + count)
    · rw [if_pos exceeds]
      refine (taken_le_iff (by simp)).trans ((excess_le_iff ownedSmall small exceeds.2).trans ?_)
      exact ⟨fun within => ⟨fun _ => within, fun under => absurd exceeds under⟩,
        fun within => within.1 exceeds.1⟩
    have kept : 0 < proto.maxCount → owned + count < 2 ^ 32 → owned ≤ toUInt32 proto.maxCount :=
      fun limited => not_above_of_within ownedSmall fun above => exceeds ⟨limited, above⟩
    rw [if_neg exceeds, and_iff_right kept, imp_iff_right exceeds]
    by_cases alone : proto.itemLimitCategory = 0
    · rw [if_pos alone]
      exact iff_of_true (Nat.zero_le _) fun _ several => absurd alone several
    rw [if_neg alone]
    cases found : mgr.lookupLimitCategory proto.itemLimitCategory with
    | none =>
      refine iff_of_true ?_ fun _ _ nothing => nomatch nothing
      rw [if_neg fun both => both.2 rfl]
      exact Nat.zero_le count
    | some limit =>
      simp only
      by_cases above : limit.have_ = true ∧
          toUInt32 limit.maxCount < toUInt32 ((similar : Int) + count)
      · rw [if_pos above]
        refine (taken_le_iff (by simp)).trans
          ((excess_le_iff similarSmall small above.2).trans ?_)
        constructor
        · intro within other _ same _
          exact some.inj same ▸ within
        · exact fun within => within limit alone rfl above.1
      · rw [if_neg above]
        refine iff_of_true (Nat.zero_le _) ?_
        intro other _ same has
        obtain rfl := some.inj same
        exact not_above_of_within similarSmall fun more => above ⟨has, more⟩

theorem canTakeMore_ok {item : Option SrcItem}
    (fine : (inv.canTakeMoreSimilarItems mgr entry count item).1 = .ok) :
    (inv.canTakeMoreSimilarItems mgr entry count item).2 = 0 := by
  unfold canTakeMoreSimilarItems at fine ⊢
  cases known : mgr.getItemTemplate entry with
  | none =>
    rw [known] at fine
    cases fine
  | some proto =>
    rw [known] at fine
    simp only at fine ⊢
    split_ifs at fine ⊢
    · rfl
    · rfl
    · split at fine
      · cases fine
      · split_ifs at fine ⊢
        rfl

/-- A call answers at once, or what it plans and has no space for make up what it starts from. -/
theorem canStoreNewItem_accounts (bag slot : Nat) (small : count < 2 ^ 32) :
    ((inv.canStoreNewItem mgr bag slot entry count).dest = [] ∧
        (inv.canStoreNewItem mgr bag slot entry count).noSpaceCount = count ∧
        inv.similarTaken mgr entry count = 0) ∨
      ∃ left, ((inv.canStoreNewItem mgr bag slot entry count).dest.map Prod.snd).sum + left =
          toUInt32 ((count : Int) - inv.similarTaken mgr entry count) ∧
        (inv.canStoreNewItem mgr bag slot entry count).noSpaceCount =
          toUInt32 ((left : Int) + inv.similarTaken mgr entry count) := by
  have fine := @canTakeMore_ok mgr inv entry count none
  unfold canStoreNewItem canStoreItem similarTaken
  cases known : mgr.getItemTemplate entry with
  | none => exact .inl ⟨rfl, rfl, by simp [canTakeMoreSimilarItems, known]⟩
  | some proto =>
    simp only [any_none, Bool.false_eq_true, if_false]
    generalize inv.canTakeMoreSimilarItems mgr entry count none = similar at fine ⊢
    by_cases refused : similar.1 ≠ .ok ∧ count = similar.2
    · rw [if_pos refused, if_neg fun both => both.2 refused.2]
      exact .inl ⟨rfl, refused.2.symm, rfl⟩
    right
    rw [if_neg refused]
    have start : (if similar.1 ≠ .ok then toUInt32 ((count : Int) - similar.2) else count) =
        toUInt32 ((count : Int) - similar.2) := by
      split
      · rfl
      next isOk =>
      rw [fine (not_not.mp isOk)]
      exact (toUInt32_of_lt count small).symm
    have taken : (if similar.1 ≠ .ok ∧ count ≠ similar.2 then similar.2 else 0) = similar.2 := by
      split
      · rfl
      next both =>
      by_contra some_
      refine both ⟨fun isOk => some_ (fine isOk).symm, fun same => refused ⟨?_, same⟩⟩
      exact fun isOk => some_ (fine isOk).symm
    rw [start, taken]
    have makes : Search.Makes (toUInt32 ((count : Int) - similar.2))
        ⟨[], toUInt32 ((count : Int) - similar.2)⟩ := Nat.zero_add _
    have ends := @Request.passes_ends ⟨mgr, inv, proto, none, bag, slot⟩ false False _ _ similar.2
      (Request.makes_kept _ false False _) False.elim makes
    generalize Request.passes _ false similar.2 _ = answer at ends ⊢
    cases answer with
    | error outcome =>
      obtain ⟨left, makes, _, noSpace⟩ := ends
      exact ⟨left, makes, noSpace rfl⟩
    | ok s => exact ⟨s.count, ends.2, rfl⟩

theorem canTakeMore_limit {proto : StorageTemplate} (known : mgr.getItemTemplate entry = some proto)
    (refused : (inv.canTakeMoreSimilarItems mgr entry count none).1 = .itemMaxCount) :
    toUInt32 proto.maxCount ≤ toUInt32 ((inv.getItemCount mgr entry true none : Int) + count) := by
  unfold canTakeMoreSimilarItems at refused
  simp only [known, any_none, Bool.false_eq_true, if_false,
    mgr.itemId_eq entry proto known] at refused
  split_ifs at refused with unlimited exceeds
  · exact Nat.le_of_lt exceeds.2
  · split at refused
    · cases refused
    · split at refused <;> cases refused

theorem canTakeMore_category {proto : StorageTemplate} {limit : LimitCategory}
    (known : mgr.getItemTemplate entry = some proto)
    (found : mgr.lookupLimitCategory proto.itemLimitCategory = some limit)
    (refused : (inv.canTakeMoreSimilarItems mgr entry count none).1 =
      .itemMaxLimitCategoryCountExceededIs) :
    toUInt32 limit.maxCount ≤ toUInt32
      ((inv.getItemCountWithLimitCategory mgr proto.itemLimitCategory none : Int) + count) := by
  unfold canTakeMoreSimilarItems at refused
  simp only [known, found, any_none, Bool.false_eq_true, if_false] at refused
  split_ifs at refused with unlimited exceeds alone above
  exact Nat.le_of_lt above.2

/-- The amounts of a call for a new item make up its count, and no subtraction wraps, just when the
player owns no more than may be owned. -/
theorem new_item_counted_iff (bag slot entry : Nat) (count : UInt32) :
    (Counted count.toNat (inv.canStoreNewItem mgr bag slot entry count.toNat) ∧
      inv.NoWrap mgr entry count.toNat (inv.canStoreNewItem mgr bag slot entry count.toNat).dest) ↔
    inv.WithinLimits mgr entry count.toNat := by
  have small := count.toNat_lt
  rw [← canTakeMore_within_iff small]
  constructor
  · rintro ⟨_, noWrap⟩
    exact (Nat.le_add_right _ _).trans noWrap.counts
  intro within
  have placed : ((inv.canStoreNewItem mgr bag slot entry count.toNat).dest.map Prod.snd).sum +
        (inv.canStoreNewItem mgr bag slot entry count.toNat).noSpaceCount = count.toNat ∧
      inv.similarTaken mgr entry count.toNat +
        ((inv.canStoreNewItem mgr bag slot entry count.toNat).dest.map Prod.snd).sum ≤
          count.toNat := by
    rcases inv.canStoreNewItem_accounts bag slot small with ⟨empty, noSpace, none_⟩ |
      ⟨left, makes, noSpace⟩
    · rw [empty, noSpace, none_]
      exact ⟨Nat.zero_add _, Nat.zero_le _⟩
    · unfold toUInt32 at makes noSpace
      omega
  refine ⟨placed.1, ⟨fun proto known => canTakeMore_limit known, fun proto limit known found =>
    canTakeMore_category known found, ?_, placed.2⟩⟩
  intro proto pos found _ _ merges
  exact Nat.le_of_lt (Request.merged_of_ok merges).2

end Inventory

theorem StorageTemplate.single_lt : (1 : Int) < 2 ^ 31 := by decide

/-- An item that may be owned once, in stacks of five. -/
def StorageTemplate.once : StorageTemplate where
  itemId := 7
  stackable := 5
  sellPrice := 0
  duration := 0
  conjured := false
  bindToAccount := false
  noBind := true
  maxCount := 1
  itemLimitCategory := 0
  bagFamily := 0
  itemClass := 0
  subClass := 0
  containerSlots := 0
  isBag := false
  bonding := .noBind
  gemProperties := false
  socketed := false
  stackable_lt := by decide

def ObjectMgr.onlyOnce : ObjectMgr where
  getItemTemplate := fun entry => if entry = 7 then some .once else none
  lookupLimitCategory := fun _ => none
  itemId_eq := by
    intro entry proto found
    split at found
    · rename_i same
      obtain rfl := Option.some.inj found
      exact same.symm
    · cases found

def StoredItem.two : StoredItem where
  guid := 5
  entry := 7
  count := 2
  owner := 1
  lootGenerated := false
  inTrade := false
  soulBound := false
  bopTradeable := false
  allowedGUIDs := []
  gems := []

/-- The player has two of an item that may be owned once: a third one fills the backpack. -/
theorem new_item_miscounted : ¬ ∀ (mgr : ObjectMgr) (inv : Inventory) (bag slot entry : Nat)
    (count : UInt32),
    Inventory.Counted count.toNat (inv.canStoreNewItem mgr bag slot entry count.toNat) ∧
      inv.NoWrap mgr entry count.toNat
        (inv.canStoreNewItem mgr bag slot entry count.toNat).dest := by
  intro claim
  have counted := (claim .onlyOnce
    ⟨1, fun pos => if pos = (inventorySlotBag0, inventorySlotItemStart) then some .two else none⟩
    nullBag nullSlot 7 1).1
  exact absurd counted (by unfold Inventory.Counted; decide +kernel)

end OpenWoW.Storage
