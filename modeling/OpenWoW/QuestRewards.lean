import OpenWoW.QuestItems
import OpenWoW.QuestTakes
import OpenWoW.CanStorePlan

/-! Rewarding a quest: what is taken for it, and what is given, one item after another. -/
namespace OpenWoW.Quests

open List

open Storage

abbrev questSourceItemIdsCount : Nat := 4
abbrev questRewardsCount : Nat := 4
abbrev questRewardChoicesCount : Nat := 6

/-- A quest with what it gives. The rewards are counted as they are loaded, before the ids of unknown
items are set to zero; amounts are `uint16`. -/
structure QuestTemplate extends Quest where
  rewItemsCount : Nat
  rewChoiceItemsCount : Nat
  rewItemsCount_le : rewItemsCount ≤ questRewardsCount
  counts_rewItems :
    (List.finRange questRewardsCount).countP (fun i => rewardItemId i ≠ 0) ≤ rewItemsCount
  counts_rewChoiceItems : ∀ i, rewardChoiceItemId i ≠ 0 → 0 < rewChoiceItemsCount
  requiredItemCount_lt : ∀ i, requiredItemCount i < 2 ^ 16
  requiredSourceItemCount_lt : ∀ i, requiredSourceItemCount i < 2 ^ 16
  rewardChoiceItemCount_lt : ∀ i, rewardChoiceItemCount i < 2 ^ 16
  rewardItemIdCount_lt : ∀ i, rewardItemIdCount i < 2 ^ 16

namespace QuestTemplate

variable (quest : QuestTemplate)

/-- The items of the objectives, by entry and amount. -/
def required : List (Nat × Nat) :=
  (List.finRange questItemObjectivesCount).map fun i =>
    (quest.requiredItemId i, quest.requiredItemCount i)

/-- The source items that are taken away; without an amount, as many as a player may have. -/
def sources : List (Nat × Nat) :=
  (List.finRange questSourceItemIdsCount).map fun i =>
    (quest.requiredSourceItemId i,
      if quest.requiredSourceItemCount i = 0 then 9999 else quest.requiredSourceItemCount i)

def choiceItem (choice : Fin questRewardChoicesCount) : Nat × Nat :=
  (quest.rewardChoiceItemId choice, quest.rewardChoiceItemCount choice)

def rewardItem (i : Fin questRewardsCount) : Nat × Nat :=
  (quest.rewardItemId i, quest.rewardItemIdCount i)

/-- What the loops go over: the choice, and the rewards before `GetRewItemsCount`. -/
def given (choice : Fin questRewardChoicesCount) : List (Nat × Nat) :=
  (if 0 < quest.rewChoiceItemsCount then [quest.choiceItem choice] else []) ++
    ((List.finRange questRewardsCount).filter (·.val < quest.rewItemsCount)).map quest.rewardItem

/-- What a player who chooses is to get. -/
def promised (choice : Fin questRewardChoicesCount) : List (Nat × Nat) :=
  quest.choiceItem choice :: (List.finRange questRewardsCount).map quest.rewardItem

end QuestTemplate

/-- What rewarding reads besides: the checks of days, weeks, months and seasons, the currencies, and
the money that stands in for experience. -/
structure RewardWorld extends World where
  satisfiesPeriods : PlayerState → Quest → Bool
  hasCurrencies : PlayerState → Quest → Bool
  canSeeStartQuest : PlayerState → Quest → Bool
  rewMoneyMaxLevel : PlayerState → Quest → Int

namespace PlayerState

section

variable (w : World) (reward : Reward) (s : PlayerState)

def getQuestRewardStatus (questId : Nat) : Bool :=
  match w.getQuestTemplate questId with
  | some quest => !quest.repeatable && s.rewardedQuests.contains questId
  | none => false

/-- `Player::ModifyMoney`, which sets no money that would be too much. -/
def modifyMoney (amount : Int) : PlayerState :=
  if amount = 0 then s
  else
    let changed := Player.modifyMoney s.money amount
    if changed.2 then s.setMoney w reward changed.1 else s

def takeItem (take : Nat × Nat) : PlayerState :=
  if take.1 = 0 then s else s.destroyItemCount w take.1 take.2 false

/-- One of the rewards: given where it has room, and skipped where it does not. -/
def giveItem (give : Nat × Nat) : PlayerState :=
  if give.1 = 0 then s
  else
    let res := s.inventory.canStoreNewItem w.items nullBag nullSlot give.1 give.2
    if res.result = .ok then s.storeNewItem w reward res.dest give.1 else s

def takeItems (takes : List (Nat × Nat)) : PlayerState := takes.foldl (takeItem w) s

def giveItems (gives : List (Nat × Nat)) : PlayerState := gives.foldl (giveItem w reward) s

end

variable (w : RewardWorld) (reward : Reward) (quest : QuestTemplate)
  (choice : Fin questRewardChoicesCount) (s : PlayerState)

/-- `CanRewardQuest` without a choice. -/
def canRewardQuest : Bool :=
  (quest.dfQuest || quest.autoComplete || quest.autoCompleteFlag ||
    s.getQuestStatus w.toWorld quest.questId == .complete) &&
  w.satisfiesPeriods s quest.toQuest &&
  !s.getQuestRewardStatus w.toWorld quest.questId &&
  (!quest.deliver || (List.finRange questItemObjectivesCount).all fun i =>
    quest.requiredItemCount i == 0 || quest.requiredItemCount i ≤
      s.inventory.getItemCount w.items (quest.requiredItemId i) false none) &&
  w.hasCurrencies s quest.toQuest &&
  !(quest.rewOrReqMoney < 0 && !Player.hasEnoughMoney s.money (-quest.rewOrReqMoney))

/-- `CanRewardQuest` with a choice: every reward is tried in the inventory as it is. -/
def canRewardQuestWith : Bool :=
  s.canRewardQuest w quest && (quest.given choice).all fun give =>
    give.1 == 0 ||
      (s.inventory.canStoreNewItem w.items nullBag nullSlot give.1 give.2).result == .ok

def rewardQuest : PlayerState :=
  let s := s.takeItems w.toWorld (quest.required ++ quest.sources)
  let s := s.giveItems w.toWorld reward (quest.given choice)
  let s := match s.findQuestSlot quest.questId with
    | some slot => s.setQuestSlot slot 0
    | none => s
  let s := s.modifyMoney w.toWorld reward
    (w.rewMoneyMaxLevel s quest.toQuest + quest.rewOrReqMoney)
  let s := s.removeActiveQuest quest.questId
  { s with rewardedQuests := s.rewardedQuests.insert quest.questId }

/-- `HandleQuestgiverChooseRewardOpcode`, at a quest giver who has the quest or not. -/
def handleQuestgiverChooseReward (atQuestGiver : Bool) : PlayerState :=
  if !atQuestGiver ||
      (!w.canSeeStartQuest s quest.toQuest && s.getQuestStatus w.toWorld quest.questId == .none_) ||
      (s.getQuestStatus w.toWorld quest.questId != .complete && !quest.autoComplete) then s
  else if s.canRewardQuestWith w quest choice then s.rewardQuest w reward quest choice
  else s

end PlayerState

/-- What is accepted takes every required item by its amount and gives every promised one by its
amount; what is refused changes nothing. -/
structure AllOrNothing (w : RewardWorld) (reward : Reward) (quest : QuestTemplate)
    (choice : Fin questRewardChoicesCount) (s : PlayerState) : Prop where
  lowers : s.canRewardQuestWith w quest choice = true → ∀ take ∈ quest.required, take.1 ≠ 0 →
    (s.rewardQuest w reward quest choice).inventory.total take.1 +
        Stock.amount take.1 quest.required =
      s.inventory.total take.1 + Stock.amount take.1 (quest.promised choice)
  raises : s.canRewardQuestWith w quest choice = true → ∀ give ∈ quest.promised choice,
    give.1 ≠ 0 →
    (s.rewardQuest w reward quest choice).inventory.total give.1 =
      (s.takeItems w.toWorld (quest.required ++ quest.sources)).inventory.total give.1 +
        Stock.amount give.1 (quest.promised choice)
  refuses : s.canRewardQuestWith w quest choice = false → ∀ atQuestGiver,
    s.handleQuestgiverChooseReward w reward quest choice atQuestGiver = s

/-- A new item is stored where it has room, with the next free guid. -/
def putIn (mgr : ObjectMgr) (store : Nat × Inventory) (give : Nat × Nat) : Nat × Inventory :=
  if give.1 = 0 then store
  else
    let res := store.2.canStoreNewItem mgr nullBag nullSlot give.1 give.2
    if res.result = .ok then
      match StoredItem.create mgr store.1 store.2.owner give.1
        (toUInt32 (res.dest.map Prod.snd).sum) with
      | none => store
      | some item => store.2.storeItem mgr (store.1 + 1) res.dest item
    else store

def HasRoom (mgr : ObjectMgr) : List (Nat × Nat) → Nat × Inventory → Prop
  | [], _ => True
  | give :: rest, store =>
    (give.1 ≠ 0 → 0 < give.2 →
      (store.2.canStoreNewItem mgr nullBag nullSlot give.1 give.2).result = .ok) ∧
    HasRoom mgr rest (putIn mgr store give)

/-- What is required can be taken without the source items taking more of it, no reward stands
behind those that are counted, and the rewards have room one after another in what is left. -/
structure Rewardable (w : World) (quest : QuestTemplate) (choice : Fin questRewardChoicesCount)
    (s : PlayerState) : Prop where
  takes : ∀ take ∈ quest.required, take.1 ≠ 0 →
    Stock.amount take.1 quest.required ≤ untraded w.items s.inventory take.1 ∧
      (Stock.amount take.1 quest.sources = 0 ∨
        untraded w.items s.inventory take.1 = Stock.amount take.1 quest.required)
  gapless : ∀ i, quest.rewardItemId i ≠ 0 → 0 < quest.rewardItemIdCount i →
    i.val < quest.rewItemsCount
  room : HasRoom w.items (quest.given choice)
    (s.nextGuid, (quest.required ++ quest.sources).foldl (takeOut w) s.inventory)

/-- No tracking quest of the log, which would be rewarded on the way, waits for one of the rewards
or for money. -/
def Undisturbed (w : World) (s : PlayerState) (gives : List (Nat × Nat)) : Prop :=
  ∀ questId tracked, Logged w s questId tracked → tracked.tracking = true →
    0 ≤ tracked.rewOrReqMoney ∧ (tracked.deliver = true →
      ∀ give ∈ gives, give.1 ≠ 0 → ∀ j, tracked.requiredItemId j ≠ give.1)

/-- Stacks as they are stored, no bag that holds something among the items asked for, and no
tracking quest that is rewarded on the way. -/
structure Ordinary (w : World) (quest : QuestTemplate) (choice : Fin questRewardChoicesCount)
    (s : PlayerState) : Prop where
  stacked : s.inventory.Stacked w.items
  bags : ∀ take ∈ quest.required ++ quest.sources, ∀ pos item,
    s.inventory.getItemByPos w.items pos = some item → item.entry = take.1 →
    holdsItems w.items s.inventory pos item = false
  undisturbed : Undisturbed w s (quest.given choice)

section

variable {quest : QuestTemplate} {choice : Fin questRewardChoicesCount}

theorem takes_small (take : Nat × Nat) (member : take ∈ quest.required ++ quest.sources) :
    take.2 < 2 ^ 16 := by
  rcases mem_append.mp member with objective | source
  · obtain ⟨i, _, rfl⟩ := mem_map.mp objective
    exact quest.requiredItemCount_lt i
  obtain ⟨i, _, rfl⟩ := mem_map.mp source
  have small := quest.requiredSourceItemCount_lt i
  split <;> omega

theorem given_promised {give : Nat × Nat} (member : give ∈ quest.given choice) :
    give ∈ quest.promised choice := by
  rcases mem_append.mp member with chosen | fixed
  · split at chosen
    · exact mem_singleton.mp chosen ▸ mem_cons_self
    · cases chosen
  · obtain ⟨i, listed, rfl⟩ := mem_map.mp fixed
    exact mem_cons_of_mem _ (mem_map.mpr ⟨i, mem_finRange i, rfl⟩)

theorem given_small (give : Nat × Nat) (member : give ∈ quest.given choice) : give.2 < 2 ^ 16 := by
  rcases mem_cons.mp (given_promised member) with rfl | fixed
  · exact quest.rewardChoiceItemCount_lt choice
  · obtain ⟨i, _, rfl⟩ := mem_map.mp fixed
    exact quest.rewardItemIdCount_lt i

/-- The rewards that the loop does not reach. -/
def QuestTemplate.missed (quest : QuestTemplate) : List (Nat × Nat) :=
  ((List.finRange questRewardsCount).filter (¬ ·.val < quest.rewItemsCount)).map quest.rewardItem

theorem amount_filter {α : Type} (p : α → Bool) (f : α → Nat × Nat) (kind : Nat) (list : List α) :
    Stock.amount kind ((list.filter p).map f) + Stock.amount kind ((list.filter (!p ·)).map f) =
      Stock.amount kind (list.map f) := by
  induction list with
  | nil => rfl
  | cons head rest ih =>
    rw [map_cons, Stock.amount_cons, ← ih]
    cases kept : p head with
    | true =>
      simp only [filter_cons, kept, if_true, Bool.not_true, Bool.false_eq_true, if_false,
        map_cons, Stock.amount_cons]
      omega
    | false =>
      simp only [filter_cons, kept, if_true, Bool.not_false, Bool.false_eq_true, if_false,
        map_cons, Stock.amount_cons]
      omega

theorem amount_promised {entry : Nat} (nonzero : entry ≠ 0) :
    Stock.amount entry (quest.promised choice) =
      Stock.amount entry (quest.given choice) + Stock.amount entry quest.missed := by
  have fixed := amount_filter (fun i : Fin questRewardsCount => decide (i.val < quest.rewItemsCount))
    quest.rewardItem entry (List.finRange questRewardsCount)
  have chosen : Stock.amount entry
      (if 0 < quest.rewChoiceItemsCount then [quest.choiceItem choice] else []) =
      if (quest.choiceItem choice).1 = entry then (quest.choiceItem choice).2 else 0 := by
    by_cases some_ : 0 < quest.rewChoiceItemsCount
    · rw [if_pos some_]
      exact Nat.add_zero _
    rw [if_neg some_]
    have none_ : (quest.choiceItem choice).1 = 0 := by
      by_contra there
      exact some_ (quest.counts_rewChoiceItems choice there)
    rw [none_, if_neg (Ne.symm nonzero)]
    rfl
  unfold QuestTemplate.promised QuestTemplate.given QuestTemplate.missed
  rw [Stock.amount_cons, Stock.amount_append, chosen, ← fixed, Nat.add_assoc]
  simp only [decide_not]

theorem missed_zero_iff : (∀ entry ≠ 0, Stock.amount entry quest.missed = 0) ↔
    ∀ i, quest.rewardItemId i ≠ 0 → 0 < quest.rewardItemIdCount i → i.val < quest.rewItemsCount := by
  constructor
  · intro none_ i known positive
    by_contra behind
    have listed : quest.rewardItem i ∈ quest.missed :=
      mem_map.mpr ⟨i, mem_filter.mpr ⟨mem_finRange i, decide_eq_true behind⟩, rfl⟩
    have counted := Stock.le_amount listed
    rw [none_ (quest.rewardItem i).1 known] at counted
    exact absurd positive (Nat.not_lt.mpr counted)
  · intro gapless entry nonzero
    apply sum_eq_zero
    intro n member
    obtain ⟨give, listed, rfl⟩ := mem_map.mp member
    obtain ⟨i, behind, rfl⟩ := mem_map.mp listed
    have behind := of_decide_eq_true (mem_filter.mp behind).2
    split
    · rename_i known
      by_contra positive
      exact behind (gapless i (fun zero => nonzero (known.symm.trans zero))
        (Nat.pos_of_ne_zero positive))
    · rfl

end

section

variable {w : World} {s t : PlayerState}

def SameLog (s t : PlayerState) : Prop := ∀ slot, (t.slots slot).questId = (s.slots slot).questId

theorem Logged.sameLog {questId : Nat} {quest : Quest} (logged : Logged w t questId quest)
    (same : SameLog s t) : Logged w s questId quest := by
  obtain ⟨nonzero, ⟨slot, here⟩, known⟩ := logged
  exact ⟨nonzero, ⟨slot, (same slot).symm.trans here⟩, known⟩

theorem Undisturbed.sameLog {gives : List (Nat × Nat)} (calm : Undisturbed w s gives)
    (same : SameLog s t) : Undisturbed w t gives :=
  fun questId tracked logged => calm questId tracked (logged.sameLog same)

theorem destroyOne_log (pos : Pos) :
    (s.destroyOne w pos).nextGuid = s.nextGuid ∧ SameLog s (s.destroyOne w pos) := by
  unfold PlayerState.destroyOne
  cases s.inventory.getItemByPos w.items pos with
  | none => exact ⟨rfl, fun _ => rfl⟩
  | some item =>
    have same := @PlayerState.itemRemovedQuestCheck_same w s item.entry item.count
    exact ⟨same.nextGuid, same.questId⟩

theorem takePart_log (pos : Pos) (item : StoredItem) (count left : Nat) :
    (s.takePart w pos item count left).nextGuid = s.nextGuid ∧
      SameLog s (s.takePart w pos item count left) := by
  have same := @PlayerState.itemRemovedQuestCheck_same w s item.entry count
  exact ⟨same.nextGuid, same.questId⟩

theorem losses_log (reward : Reward) {losses : List Change} (s : PlayerState)
    (all : ∀ change ∈ losses, change.isLoss) :
    (losses.foldl (PlayerState.change w reward) s).nextGuid = s.nextGuid ∧
      SameLog s (losses.foldl (PlayerState.change w reward) s) := by
  induction losses generalizing s with
  | nil => exact ⟨rfl, fun _ => rfl⟩
  | cons change rest ih =>
    have first : (s.change w reward change).nextGuid = s.nextGuid ∧
        SameLog s (s.change w reward change) := by
      have loss := all change mem_cons_self
      cases change with
      | loss pos => exact destroyOne_log pos
      | partLoss pos item count left => exact takePart_log pos item count left
      | gain dest entry => cases loss
      | money value => cases loss
    have later := ih (s.change w reward change) fun other member =>
      all other (mem_cons_of_mem change member)
    rw [foldl_cons]
    exact ⟨later.1.trans first.1, fun slot => (later.2 slot).trans (first.2 slot)⟩

theorem takeItem_spec (take : Nat × Nat) :
    (s.takeItem w take).inventory = takeOut w s.inventory take ∧
      (s.takeItem w take).nextGuid = s.nextGuid ∧ SameLog s (s.takeItem w take) := by
  unfold PlayerState.takeItem takeOut
  split
  · exact ⟨rfl, rfl, fun _ => rfl⟩
  -- the loops are a sequence of losses, however tracking quests are rewarded
  have steps := @destroyLoop_changes w (fun _ s => s) take.1 take.2 false destroyOrder 0 s
  have losses := @taken_isLoss w take.1 take.2 false destroyOrder 0 s.inventory
  unfold PlayerState.destroyItemCount
  rw [steps]
  exact ⟨losses_inventory _ s losses, losses_log _ s losses⟩

theorem takeItems_spec (takes : List (Nat × Nat)) (s : PlayerState) :
    (s.takeItems w takes).inventory = takes.foldl (takeOut w) s.inventory ∧
      (s.takeItems w takes).nextGuid = s.nextGuid ∧ SameLog s (s.takeItems w takes) := by
  induction takes generalizing s with
  | nil => exact ⟨rfl, rfl, fun _ => rfl⟩
  | cons take rest ih =>
    obtain ⟨items, guid, same⟩ := @takeItem_spec w s take
    obtain ⟨allItems, allGuid, allSame⟩ := ih (s.takeItem w take)
    have whole : s.takeItems w (take :: rest) = (s.takeItem w take).takeItems w rest := rfl
    rw [whole, foldl_cons, ← items]
    exact ⟨allItems, allGuid.trans guid, fun slot => (allSame slot).trans (same slot)⟩

variable {reward : Reward}

theorem completeQuest_same {questId : Nat}
    (ordinary : ∀ quest, w.getQuestTemplate questId = some quest → quest.tracking = false) :
    PlayerState.SameItems s (s.completeQuest w reward questId) := by
  unfold PlayerState.completeQuest
  split
  · exact PlayerState.SameItems.refl s
  split
  · rename_i quest known
    rw [ordinary quest known, if_neg Bool.false_ne_true]
    exact PlayerState.markComplete_same questId
  · exact PlayerState.markComplete_same questId

theorem itemAddedQuestCheck_same {entry count : Nat}
    (ordinary : ∀ questId quest j, Logged w s questId quest → quest.deliver = true →
      quest.requiredItemId j = entry → quest.tracking = false) :
    PlayerState.SameItems s (s.itemAddedQuestCheck w reward entry count) := by
  have ⟨same, _, _⟩ := @addedTarget_same w entry allSlots s
  unfold PlayerState.itemAddedQuestCheck
  generalize searched : PlayerState.addedTarget w entry allSlots s = search at same
  obtain ⟨t, target⟩ := search
  cases target with
  | none => exact same
  | some found =>
    obtain ⟨questId, quest, j⟩ := found
    have stopped : (PlayerState.addedTarget w entry allSlots s).2 = some (questId, quest, j) := by
      rw [searched]
    obtain ⟨logged, _, deliver, item⟩ := addedTarget_some s stopped
    simp only
    have counted := same.trans (PlayerState.setItemCount_same questId j
      (PlayerState.addedCount ((t.data questId).itemCount j).toNat (quest.requiredItemCount j) count))
    split
    · refine counted.trans (completeQuest_same fun other known => ?_)
      obtain rfl := Option.some.inj (logged.known.symm.trans known)
      exact ordinary questId quest j logged deliver item
    · exact counted

theorem moneyChanged_same (value : Nat)
    (ordinary : ∀ questId quest, Logged w s questId quest → quest.rewOrReqMoney < 0 →
      quest.tracking = false) :
    PlayerState.SameItems s (s.moneyChanged w reward value) := by
  unfold PlayerState.moneyChanged
  generalize allSlots = slots
  induction slots generalizing s with
  | nil => exact PlayerState.SameItems.refl s
  | cons slot rest ih =>
    have first : PlayerState.SameItems s
        (PlayerState.moneyChangedAt w reward (toInt32 (toUInt32 value)) s slot) := by
      unfold PlayerState.moneyChangedAt
      simp only
      split
      · exact PlayerState.SameItems.refl s
      next nonzero =>
      split
      · exact PlayerState.SameItems.refl s
      next quest known =>
      split
      · rename_i costs
        have touched := @PlayerState.touch_same s (s.slots slot).questId
        split
        · split
          · refine touched.trans (completeQuest_same fun other there => ?_)
            obtain rfl := Option.some.inj (known.symm.trans there)
            exact ordinary _ quest ⟨nonzero, ⟨slot, rfl⟩, known⟩ costs
          · exact touched
        · split
          · exact touched.trans (PlayerState.incompleteQuest_same _)
          · exact touched
        · exact touched
      · exact PlayerState.SameItems.refl s
    rw [foldl_cons]
    exact first.trans (ih fun questId quest logged =>
      ordinary questId quest (logged.sameLog first.questId))

def PlayerState.store (s : PlayerState) : Nat × Inventory := (s.nextGuid, s.inventory)

theorem giveItem_spec {gives : List (Nat × Nat)} (calm : Undisturbed w s gives) {give : Nat × Nat}
    (member : give ∈ gives) :
    (s.giveItem w reward give).store = putIn w.items s.store give ∧
      SameLog s (s.giveItem w reward give) := by
  unfold PlayerState.giveItem putIn
  by_cases zero : give.1 = 0
  · rw [if_pos zero, if_pos zero]
    exact ⟨rfl, fun _ => rfl⟩
  rw [if_neg zero, if_neg zero]
  simp only
  have sameInventory : s.store.2 = s.inventory := rfl
  rw [sameInventory]
  split
  · unfold PlayerState.storeNewItem
    simp only
    have sameGuid : s.store.1 = s.nextGuid := rfl
    rw [sameGuid]
    cases StoredItem.create w.items s.nextGuid s.inventory.owner give.1 _ with
    | none => exact ⟨rfl, fun _ => rfl⟩
    | some item =>
      have same := @itemAddedQuestCheck_same w { s with nextGuid := s.nextGuid + 1 } reward give.1
        (toUInt32 ((s.inventory.canStoreNewItem w.items nullBag nullSlot give.1 give.2).dest.map
          Prod.snd).sum) (fun questId quest j logged deliver item => by
            by_contra tracks
            have waits := (calm questId quest ⟨logged.nonzero, logged.slot, logged.known⟩
              (Bool.not_eq_false _ ▸ tracks)).2 deliver give member zero j
            exact waits item)
      refine ⟨?_, same.questId⟩
      simp only [PlayerState.store]
      rw [same.nextGuid, same.inventory]
  · exact ⟨rfl, fun _ => rfl⟩

theorem giveItems_spec {all : List (Nat × Nat)} (gives : List (Nat × Nat)) (s : PlayerState)
    (calm : Undisturbed w s all) (inside : ∀ give ∈ gives, give ∈ all) :
    (s.giveItems w reward gives).store = gives.foldl (putIn w.items) s.store ∧
      SameLog s (s.giveItems w reward gives) := by
  induction gives generalizing s with
  | nil => exact ⟨rfl, fun _ => rfl⟩
  | cons give rest ih =>
    obtain ⟨items, same⟩ := @giveItem_spec w s reward all calm give (inside give mem_cons_self)
    obtain ⟨allItems, allSame⟩ := ih (s.giveItem w reward give) (calm.sameLog same)
      fun other member => inside other (mem_cons_of_mem give member)
    have whole : s.giveItems w reward (give :: rest) =
        (s.giveItem w reward give).giveItems w reward rest := rfl
    rw [whole, foldl_cons, ← items]
    exact ⟨allItems, fun slot => (allSame slot).trans (same slot)⟩

end

section

variable {mgr : ObjectMgr} {store : Nat × Inventory} {give : Nat × Nat}

theorem putIn_nothing (none_ : give.1 = 0 ∨ give.2 = 0 ∨
      (store.2.canStoreNewItem mgr nullBag nullSlot give.1 give.2).result ≠ .ok) :
    putIn mgr store give = store := by
  unfold putIn
  by_cases zero : give.1 = 0
  · rw [if_pos zero]
  rw [if_neg zero]
  simp only
  split
  · rename_i fine
    have empty : give.2 = 0 := (none_.resolve_left zero).resolve_right (not_not.mpr fine)
    have sum := (canStoreItem_whole fine).1
    rw [empty] at sum fine ⊢
    unfold Inventory.canStoreNewItem
    rw [sum]
    rfl
  · rfl

theorem putIn_total (nonzero : give.1 ≠ 0) (small : give.2 < 2 ^ 16)
    (fine : (store.2.canStoreNewItem mgr nullBag nullSlot give.1 give.2).result = .ok)
    (entry : Nat) : (putIn mgr store give).2.total entry =
      store.2.total entry + if give.1 = entry then give.2 else 0 := by
  by_cases positive : 0 < give.2
  · obtain ⟨sum, proto, known⟩ := canStoreItem_whole fine
    have narrow : give.2 < 2 ^ 32 := by omega
    have planned := (@Inventory.canStoreItem_spec mgr store.2 nullBag nullSlot give.1 give.2 none
      false positive narrow (.inr nofun)).1
    have fits := planned.fits_new
    have makes : toUInt32 ((store.2.canStoreNewItem mgr nullBag nullSlot give.1 give.2).dest.map
        Prod.snd).sum = give.2 := by
      unfold Inventory.canStoreNewItem
      rw [sum]
      exact toUInt32_of_lt _ narrow
    have largest : 0 < mgr.maxStack give.1 := by
      simp only [ObjectMgr.maxStack, known, Option.elim_some]
      exact getMaxStackSize_pos _
    obtain ⟨item, made⟩ := @StoredItem.create_isSome mgr store.1 store.2.owner give.1 give.2 positive
      largest
    have same := (StoredItem.create_some made).1
    have stored := Inventory.storeItem_total (store.1 + 1) (same.symm ▸ fits :
      Inventory.Fits mgr store.2 item.entry (Inventory.canStoreItem mgr store.2 nullBag nullSlot
        give.1 give.2 none false).dest) entry
    unfold putIn
    rw [if_neg nonzero]
    rw [if_pos fine, makes, made]
    refine stored.trans ?_
    rw [sum, same]
  · have none_ := Nat.eq_zero_of_not_pos positive
    rw [putIn_nothing (.inr (.inl none_)), none_, ite_self, Nat.add_zero]

theorem putIn_bounds (gives : List (Nat × Nat)) (small : ∀ give ∈ gives, give.2 < 2 ^ 16)
    (store : Nat × Inventory) (entry : Nat) :
    store.2.total entry ≤ (gives.foldl (putIn mgr) store).2.total entry ∧
      (gives.foldl (putIn mgr) store).2.total entry ≤
        store.2.total entry + Stock.amount entry gives := by
  induction gives generalizing store with
  | nil => exact ⟨Nat.le_refl _, Nat.le_add_right _ _⟩
  | cons give rest ih =>
    obtain ⟨lower, upper⟩ := ih (fun other member => small other (mem_cons_of_mem _ member))
      (putIn mgr store give)
    rw [foldl_cons, Stock.amount_cons]
    have one : store.2.total entry ≤ (putIn mgr store give).2.total entry ∧
        (putIn mgr store give).2.total entry ≤
          store.2.total entry + if give.1 = entry then give.2 else 0 := by
      by_cases none_ : give.1 = 0 ∨ give.2 = 0 ∨
          (store.2.canStoreNewItem mgr nullBag nullSlot give.1 give.2).result ≠ .ok
      · rw [putIn_nothing none_]
        exact ⟨Nat.le_refl _, Nat.le_add_right _ _⟩
      simp only [not_or, not_not] at none_
      rw [putIn_total none_.1 (small give mem_cons_self) none_.2.2]
      exact ⟨Nat.le_add_right _ _, Nat.le_refl _⟩
    exact ⟨one.1.trans lower, by omega⟩

theorem putIn_all {gives : List (Nat × Nat)} (small : ∀ give ∈ gives, give.2 < 2 ^ 16)
    (store : Nat × Inventory) (room : HasRoom mgr gives store) {entry : Nat} (nonzero : entry ≠ 0) :
    (gives.foldl (putIn mgr) store).2.total entry =
      store.2.total entry + Stock.amount entry gives := by
  induction gives generalizing store with
  | nil => exact (Nat.add_zero _).symm
  | cons give rest ih =>
    have later := ih (fun other member => small other (mem_cons_of_mem _ member))
      (putIn mgr store give) room.2
    rw [foldl_cons, Stock.amount_cons, later]
    by_cases zero : give.1 = 0
    · rw [putIn_nothing (.inl zero), if_neg fun same => nonzero (same.symm.trans zero), Nat.zero_add]
    by_cases positive : 0 < give.2
    · rw [putIn_total zero (small give mem_cons_self) (room.1 zero positive), Nat.add_assoc]
    · have none_ := Nat.eq_zero_of_not_pos positive
      rw [putIn_nothing (.inr (.inl none_)), none_, ite_self, Nat.zero_add]

theorem room_of_all {gives : List (Nat × Nat)} (small : ∀ give ∈ gives, give.2 < 2 ^ 16)
    (store : Nat × Inventory)
    (all : ∀ give ∈ gives, give.1 ≠ 0 → (gives.foldl (putIn mgr) store).2.total give.1 =
      store.2.total give.1 + Stock.amount give.1 gives) : HasRoom mgr gives store := by
  induction gives generalizing store with
  | nil => trivial
  | cons give rest ih =>
    have later := fun other member => small other (mem_cons_of_mem give member)
    have first : give.1 ≠ 0 → 0 < give.2 →
        (store.2.canStoreNewItem mgr nullBag nullSlot give.1 give.2).result = .ok := by
      intro nonzero positive
      by_contra refused
      have whole := all give mem_cons_self nonzero
      have bound := (@putIn_bounds mgr rest later (putIn mgr store give) give.1).2
      rw [foldl_cons, Stock.amount_cons, if_pos rfl] at whole
      rw [putIn_nothing (.inr (.inr refused))] at bound whole
      omega
    refine ⟨first, ih later (putIn mgr store give) fun other member nonzero => ?_⟩
    have whole := all other (mem_cons_of_mem give member) nonzero
    rw [foldl_cons, Stock.amount_cons] at whole
    rw [whole]
    by_cases zero : give.1 = 0
    · rw [putIn_nothing (.inl zero), if_neg fun same => nonzero (same.symm.trans zero), Nat.zero_add]
    by_cases positive : 0 < give.2
    · rw [putIn_total zero (small give mem_cons_self) (first zero positive), Nat.add_assoc]
    · have none_ := Nat.eq_zero_of_not_pos positive
      rw [putIn_nothing (.inr (.inl none_)), none_, ite_self, Nat.zero_add]

end

section

variable {w : RewardWorld} {reward : Reward} {quest : QuestTemplate}
  {choice : Fin questRewardChoicesCount} {s : PlayerState}

/-- After the items nothing that is rewarded touches the inventory. -/
theorem rewardQuest_inventory (calm : Undisturbed w.toWorld s (quest.given choice)) :
    (s.rewardQuest w reward quest choice).inventory =
      ((quest.given choice).foldl (putIn w.items)
        (s.nextGuid, (quest.required ++ quest.sources).foldl (takeOut w.toWorld) s.inventory)).2 := by
  obtain ⟨items, guid, same⟩ := takeItems_spec (w := w.toWorld) (quest.required ++ quest.sources) s
  generalize tookIs : s.takeItems w.toWorld (quest.required ++ quest.sources) = took
    at items guid same
  obtain ⟨stored, still⟩ := @giveItems_spec w.toWorld reward (quest.given choice)
    (quest.given choice) took (calm.sameLog same) fun _ member => member
  unfold PlayerState.rewardQuest
  simp only
  rw [tookIs]
  generalize took.giveItems w.toWorld reward (quest.given choice) = gave at stored still
  have start : took.store =
      (s.nextGuid, (quest.required ++ quest.sources).foldl (takeOut w.toWorld) s.inventory) := by
    unfold PlayerState.store
    rw [guid, items]
  rw [← start, ← stored]
  -- the slot is cleared, and what stays in the log is no tracking quest that waits for money
  have cleared : ∃ t : PlayerState, (match gave.findQuestSlot quest.questId with
      | some slot => gave.setQuestSlot slot 0
      | none => gave) = t ∧ t.inventory = gave.inventory ∧
      ∀ questId other, Logged w.toWorld t questId other → Logged w.toWorld gave questId other := by
    refine ⟨_, rfl, ?_⟩
    split
    · rename_i slot _
      refine ⟨rfl, fun questId other logged => ⟨logged.nonzero, ?_, logged.known⟩⟩
      obtain ⟨place, here⟩ := logged.slot
      refine ⟨place, ?_⟩
      unfold PlayerState.setQuestSlot PlayerState.setSlot at here
      by_cases emptied : place = slot
      · subst emptied
        simp only [Function.update_self] at here
        exact absurd here.symm logged.nonzero
      · simpa only [Function.update_of_ne emptied] using here
    · exact ⟨rfl, fun _ _ logged => logged⟩
  obtain ⟨t, sameState, sameItems, before⟩ := cleared
  rw [sameState]
  have money : ∀ amount, (t.modifyMoney w.toWorld reward amount).inventory = t.inventory := by
    intro amount
    unfold PlayerState.modifyMoney
    split
    · rfl
    simp only
    split
    · exact (moneyChanged_same _ fun questId other logged costs => by
        by_contra tracks
        have inLog : Logged w.toWorld t questId other :=
          ⟨logged.nonzero, logged.slot, logged.known⟩
        have logged : Logged w.toWorld s questId other :=
          ((before questId other inLog).sameLog still).sameLog same
        have pays := (calm questId other logged (Bool.not_eq_false _ ▸ tracks)).1
        omega).inventory
    · rfl
  show (t.modifyMoney w.toWorld reward _).inventory = gave.inventory
  rw [money, sameItems]

theorem reward_all_or_nothing_iff (ordinary : Ordinary w.toWorld quest choice s) :
    AllOrNothing w reward quest choice s ↔
      (s.canRewardQuestWith w quest choice = true → Rewardable w.toWorld quest choice s) := by
  have taken : ∀ entry ≠ 0,
      (s.takeItems w.toWorld (quest.required ++ quest.sources)).inventory.total entry +
        min (Stock.amount entry quest.required + Stock.amount entry quest.sources)
          (untraded w.items s.inventory entry) = s.inventory.total entry := by
    intro entry nonzero
    rw [(takeItems_spec _ s).1, ← Stock.amount_append]
    refine takeOut_all _ takes_small s.inventory (fun take member asked => ⟨?_, ?_⟩) entry nonzero
    · intro pos item found
      exact Nat.lt_of_le_of_lt
        (ordinary.stacked pos item (Inventory.items_of_getItemByPos found)) (maxStack_lt _ _)
    · exact ordinary.bags take member
  have items := @rewardQuest_inventory w reward quest choice s ordinary.undisturbed
  have left := (@takeItems_spec w.toWorld (quest.required ++ quest.sources) s).1
  have bounds := @putIn_bounds w.items (quest.given choice) given_small
    (s.nextGuid, (quest.required ++ quest.sources).foldl (takeOut w.toWorld) s.inventory)
  rw [← items] at bounds
  simp only [← left] at bounds
  constructor
  · intro holds accepted
    have raises := holds.raises accepted
    have whole : ∀ give ∈ quest.promised choice, give.1 ≠ 0 →
        Stock.amount give.1 quest.missed = 0 ∧
          (s.rewardQuest w reward quest choice).inventory.total give.1 =
            (s.takeItems w.toWorld (quest.required ++ quest.sources)).inventory.total give.1 +
              Stock.amount give.1 (quest.given choice) := by
      intro give member nonzero
      have raised := raises give member nonzero
      rw [amount_promised nonzero] at raised
      have bound := (bounds give.1).2
      omega
    refine ⟨fun take member nonzero => ?_, ?_, ?_⟩
    · have lowered := holds.lowers accepted take member nonzero
      have unchanged := taken take.1 nonzero
      have raised : (s.rewardQuest w reward quest choice).inventory.total take.1 =
          (s.takeItems w.toWorld (quest.required ++ quest.sources)).inventory.total take.1 +
            Stock.amount take.1 (quest.promised choice) := by
        by_cases listed : ∃ give ∈ quest.promised choice, give.1 = take.1
        · obtain ⟨give, promised, same⟩ := listed
          rw [← same] at nonzero ⊢
          exact raises give promised nonzero
        have none_ : Stock.amount take.1 (quest.promised choice) = 0 :=
          Stock.amount_of_absent _ fun give promised same => listed ⟨give, promised, same⟩
        have within := bounds take.1
        rw [amount_promised nonzero] at none_ ⊢
        omega
      omega
    · refine missed_zero_iff.mp fun entry nonzero => ?_
      by_cases listed : ∃ give ∈ quest.missed, give.1 = entry
      · obtain ⟨give, behind, same⟩ := listed
        rw [← same] at nonzero ⊢
        refine (whole give (mem_cons_of_mem _ ?_) nonzero).1
        obtain ⟨i, _, rfl⟩ := mem_map.mp behind
        exact mem_map.mpr ⟨i, mem_finRange i, rfl⟩
      · exact Stock.amount_of_absent _ fun give behind same => listed ⟨give, behind, same⟩
    · refine room_of_all given_small _ fun give member nonzero => ?_
      rw [← items, ← left]
      exact (whole give (given_promised member) nonzero).2
  · intro rewardable
    have raised : s.canRewardQuestWith w quest choice = true → ∀ entry ≠ 0,
        (s.rewardQuest w reward quest choice).inventory.total entry =
          (s.takeItems w.toWorld (quest.required ++ quest.sources)).inventory.total entry +
            Stock.amount entry (quest.promised choice) := by
      intro accepted entry nonzero
      have rewardable := rewardable accepted
      have stored := putIn_all given_small _ rewardable.room nonzero
      rw [← items, ← left] at stored
      rw [amount_promised nonzero, missed_zero_iff.mpr rewardable.gapless entry nonzero, Nat.add_zero]
      exact stored
    refine ⟨fun accepted take member nonzero => ?_, fun accepted give _ => raised accepted give.1,
      fun refused atQuestGiver => ?_⟩
    · have gained := raised accepted take.1 nonzero
      have lost := taken take.1 nonzero
      have enough := (rewardable accepted).takes take member nonzero
      omega
    · unfold PlayerState.handleQuestgiverChooseReward
      rw [refused, if_neg Bool.false_ne_true, ite_self]

end

section

local instance rewards_neZero : NeZero questRewardsCount := ⟨by decide⟩

def QuestTemplate.twoItems : QuestTemplate where
  questId := 5
  autoComplete := true
  autoCompleteFlag := false
  tracking := false
  partyAccept := false
  autoAccept := false
  repeatable := false
  dfQuest := false
  deliver := false
  explorationOrEvent := false
  speakTo := false
  killOrCast := false
  timed := false
  playerKill := false
  requiredItemId := fun _ => 0
  requiredItemCount := fun _ => 0
  requiredNpcOrGo := fun _ => 0
  requiredNpcOrGoCount := fun _ => 0
  requiredSpellCast := fun _ => 0
  requiredSourceItemId := fun _ => 0
  requiredSourceItemCount := fun _ => 0
  playersSlain := 0
  rewOrReqMoney := 0
  limitTime := 0
  srcItemId := 0
  srcItemCount := 0
  repObjectiveFaction := 0
  repObjectiveValue := 0
  rewardChoiceItemId := fun _ => 0
  rewardChoiceItemCount := fun _ => 0
  rewardItemId := fun i => if i = 0 then 7 else if i = 1 then 8 else 0
  rewardItemIdCount := fun i => if i = 0 ∨ i = 1 then 1 else 0
  rewOrReqMoney_lt := by decide
  rewItemsCount := 2
  rewChoiceItemsCount := 0
  rewItemsCount_le := by decide
  counts_rewItems := by decide
  counts_rewChoiceItems := fun _ known => absurd rfl known
  requiredItemCount_lt := fun _ => by decide
  requiredSourceItemCount_lt := fun _ => by decide
  rewardChoiceItemCount_lt := fun _ => by decide
  rewardItemIdCount_lt := by decide

end

/-- Items that do not stack. -/
def singles : ObjectMgr where
  getItemTemplate := fun entry =>
    some { StorageTemplate.once with
      itemId := entry, stackable := 1, maxCount := 0, stackable_lt := StorageTemplate.single_lt }
  lookupLimitCategory := fun _ => none
  itemId_eq := fun _ _ found => Option.some.inj found ▸ rfl

def RewardWorld.plain : RewardWorld where
  items := singles
  getQuestTemplate := fun id => if id = 5 then some QuestTemplate.twoItems.toQuest else none
  questId_eq := by
    intro id quest known
    split at known
    · rename_i same
      obtain rfl := Option.some.inj known
      exact same.symm
    · cases known
  satisfies := fun _ _ => true
  reputation := fun _ _ => 0
  canUnequipItem := fun _ _ => true
  satisfiesPeriods := fun _ _ => true
  hasCurrencies := fun _ _ => true
  canSeeStartQuest := fun _ _ => true
  rewMoneyMaxLevel := fun _ _ => 0

/-- A player whose backpack is full up to a slot, and whose log is empty. -/
def PlayerState.carrying (slots : Nat) : PlayerState where
  slots := fun _ => ⟨0, false, false⟩
  questStatus := fun _ => none
  rewardedQuests := []
  inventory := {
    owner := 1
    items := fun pos =>
      if pos.1 = inventorySlotBag0 ∧ inventorySlotItemStart ≤ pos.2 ∧ pos.2 < slots then
        some { StoredItem.two with guid := pos.2, count := 1 }
      else none }
  money := 0
  nextGuid := 100

theorem reward_all_or_nothing_iff_empty : AllOrNothing .plain (fun _ s => s) .twoItems 0
    (PlayerState.carrying inventorySlotItemStart) := by
  have empty : ∀ pos, (PlayerState.carrying inventorySlotItemStart).inventory.items pos = none :=
    fun pos => if_neg fun ⟨_, lower, upper⟩ => absurd lower (Nat.not_le.mpr upper)
  refine (reward_all_or_nothing_iff ⟨?_, ?_, ?_⟩).mpr fun _ => ⟨?_, by decide, ?_⟩
  · intro pos item found
    rw [empty] at found
    cases found
  · intro take _ pos item found
    have stands := Inventory.items_of_getItemByPos found
    rw [empty] at stands
    cases stands
  · rintro questId tracked ⟨nonzero, ⟨slot, here⟩, _⟩
    exact absurd here.symm nonzero
  · intro take member nonzero
    obtain ⟨i, _, rfl⟩ := mem_map.mp member
    exact absurd rfl nonzero
  · exact ⟨fun _ _ => by decide +kernel, fun _ _ => by decide +kernel, trivial⟩

/-- One slot is free: each of the two rewards has room in it, and the second one is skipped. -/
theorem second_reward_skipped : ¬ ∀ (w : RewardWorld) (reward : Reward) (quest : QuestTemplate)
    (choice : Fin questRewardChoicesCount) (s : PlayerState),
    AllOrNothing w reward quest choice s := by
  intro claim
  have raised := (claim .plain (fun _ s => s) .twoItems 0 (.carrying (inventorySlotItemEnd - 1))).raises
    (by decide +kernel) (8, 1) (by decide) (by decide)
  exact absurd raised (by decide +kernel)

end OpenWoW.Quests
