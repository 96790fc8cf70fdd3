import OpenWoW.CanStoreSteps

/-! The quest log, and the checks that items and money run on it. -/
namespace OpenWoW.Quests

open Storage

abbrev maxQuestLogSize : Nat := 25
abbrev questItemObjectivesCount : Nat := 6
abbrev questObjectivesCount : Nat := 4

inductive QuestStatus where
  | none_ | complete | incomplete | failed | rewarded
  deriving DecidableEq, Repr

structure QuestStatusData where
  status : QuestStatus
  timer : Nat
  itemCount : Fin questItemObjectivesCount → UInt16
  creatureOrGOCount : Fin questObjectivesCount → UInt16
  playerCount : UInt16
  explored : Bool

/-- What `operator[]` puts where nothing is. -/
def QuestStatusData.fresh : QuestStatusData where
  status := .none_
  timer := 0
  itemCount := fun _ => 0
  creatureOrGOCount := fun _ => 0
  playerCount := 0
  explored := false

/-- A slot of the log: the quest, zero in an empty slot, and the state flags. -/
structure QuestSlot where
  questId : Nat
  complete : Bool
  fail : Bool
  deriving DecidableEq, Repr

structure Quest where
  questId : Nat
  /-- `IsAutoComplete`. -/
  autoComplete : Bool
  /-- `QUEST_FLAGS_AUTOCOMPLETE`. -/
  autoCompleteFlag : Bool
  /-- `QUEST_FLAGS_TRACKING`: rewarded as soon as it is complete. -/
  tracking : Bool
  partyAccept : Bool
  /-- `IsAutoAccept`. -/
  autoAccept : Bool
  repeatable : Bool
  dfQuest : Bool
  deliver : Bool
  explorationOrEvent : Bool
  speakTo : Bool
  killOrCast : Bool
  timed : Bool
  playerKill : Bool
  requiredItemId : Fin questItemObjectivesCount → Nat
  requiredItemCount : Fin questItemObjectivesCount → Nat
  requiredNpcOrGo : Fin questObjectivesCount → Int
  requiredNpcOrGoCount : Fin questObjectivesCount → Nat
  requiredSpellCast : Fin questObjectivesCount → Nat
  requiredSourceItemId : Fin 4 → Nat
  requiredSourceItemCount : Fin 4 → Nat
  playersSlain : Nat
  /-- `GetRewOrReqMoney`: negative when the quest costs money. -/
  rewOrReqMoney : Int
  limitTime : Nat
  srcItemId : Nat
  srcItemCount : Nat
  repObjectiveFaction : Nat
  repObjectiveValue : Int
  rewardChoiceItemId : Fin 6 → Nat
  rewardChoiceItemCount : Fin 6 → Nat
  rewardItemId : Fin 4 → Nat
  rewardItemIdCount : Fin 4 → Nat
  /-- `GetRewOrReqMoney` is an `int32`, and its negation is one too. -/
  rewOrReqMoney_lt : -2 ^ 31 < rewOrReqMoney

def Quest.objective (quest : Quest) (entry : Nat) : Option (Fin questItemObjectivesCount) :=
  (List.finRange questItemObjectivesCount).find? fun j => quest.requiredItemId j == entry

/-- A player, as far as quests and items go. -/
structure PlayerState where
  slots : Fin maxQuestLogSize → QuestSlot
  questStatus : Nat → Option QuestStatusData
  rewardedQuests : List Nat
  inventory : Inventory
  money : Nat
  /-- The next free item guid. -/
  nextGuid : Nat

/-- The tables, and what the checks read of the rest of the player. -/
structure World where
  items : ObjectMgr
  getQuestTemplate : Nat → Option Quest
  questId_eq : ∀ id quest, getQuestTemplate id = some quest → quest.questId = id
  /-- `CanTakeQuest` but for `SatisfyQuestStatus`. -/
  satisfies : PlayerState → Nat → Bool
  reputation : PlayerState → Nat → Int
  canUnequipItem : Inventory → Pos → Bool

def allSlots : List (Fin maxQuestLogSize) := List.finRange maxQuestLogSize

def toUInt16 (n : Nat) : Nat := n % 2 ^ 16

namespace PlayerState

variable (s : PlayerState)

/-- The status data of a quest, as `operator[]` gives it. -/
def data (questId : Nat) : QuestStatusData := (s.questStatus questId).getD .fresh

/-- `operator[]`: a quest without an entry gets one. -/
def setData (questId : Nat) (data : QuestStatusData) : PlayerState :=
  { s with questStatus := Function.update s.questStatus questId (some data) }

def touch (questId : Nat) : PlayerState := s.setData questId (s.data questId)

def setSlot (slot : Fin maxQuestLogSize) (content : QuestSlot) : PlayerState :=
  { s with slots := Function.update s.slots slot content }

def findQuestSlot (questId : Nat) : Option (Fin maxQuestLogSize) :=
  allSlots.find? fun slot => (s.slots slot).questId == questId

def getQuestStatus (w : World) (questId : Nat) : QuestStatus :=
  if questId = 0 then .none_
  else match s.questStatus questId with
    | some data => data.status
    | none =>
      match w.getQuestTemplate questId with
      | some quest =>
        if !quest.repeatable && s.rewardedQuests.contains questId then .rewarded else .none_
      | none => .none_

def setQuestStatus (w : World) (questId : Nat) (status : QuestStatus) : PlayerState :=
  if (w.getQuestTemplate questId).isSome then
    s.setData questId { s.data questId with status := status }
  else s

def setQuestSlot (slot : Fin maxQuestLogSize) (questId : Nat) : PlayerState :=
  s.setSlot slot { questId := questId, complete := false, fail := false }

def setQuestSlotState (slot : Fin maxQuestLogSize) (complete fail : Bool) : PlayerState :=
  s.setSlot slot { s.slots slot with
    complete := (s.slots slot).complete || complete, fail := (s.slots slot).fail || fail }

def removeQuestSlotComplete (slot : Fin maxQuestLogSize) : PlayerState :=
  s.setSlot slot { s.slots slot with complete := false }

def removeActiveQuest (questId : Nat) : PlayerState :=
  { s with questStatus := Function.update s.questStatus questId none }

def canTakeQuest (w : World) (quest : Quest) : Bool :=
  s.getQuestStatus w quest.questId == .none_ && w.satisfies s quest.questId

def objectivesReached (w : World) (quest : Quest) (data : QuestStatusData) : Bool :=
  (!quest.deliver || (List.finRange questItemObjectivesCount).all fun i =>
    quest.requiredItemCount i == 0 || quest.requiredItemCount i ≤ (data.itemCount i).toNat) &&
  (!(quest.killOrCast || quest.speakTo) || (List.finRange questObjectivesCount).all fun i =>
    quest.requiredNpcOrGo i == 0 || quest.requiredNpcOrGoCount i == 0 ||
      quest.requiredNpcOrGoCount i ≤ (data.creatureOrGOCount i).toNat) &&
  (!quest.playerKill || quest.playersSlain == 0 || quest.playersSlain ≤ data.playerCount.toNat) &&
  (!quest.explorationOrEvent || data.explored) &&
  !(quest.timed && data.timer == 0) &&
  !(quest.rewOrReqMoney < 0 && !Player.hasEnoughMoney s.money (-quest.rewOrReqMoney)) &&
  !(quest.repObjectiveFaction != 0 &&
    w.reputation s quest.repObjectiveFaction < quest.repObjectiveValue)

def canCompleteQuest (w : World) (questId : Nat) : Bool :=
  if questId = 0 then false
  else match w.getQuestTemplate questId with
    | none => false
    | some quest =>
      if !quest.repeatable && s.rewardedQuests.contains questId then false
      else if (quest.autoComplete || quest.autoCompleteFlag) && s.canTakeQuest w quest then true
      else match s.questStatus questId with
        | none => false
        | some data => data.status == .incomplete && s.objectivesReached w quest data

def incompleteQuest (w : World) (questId : Nat) : PlayerState :=
  if questId = 0 then s
  else
    let s := s.setQuestStatus w questId .incomplete
    match s.findQuestSlot questId with
    | some slot => s.removeQuestSlotComplete slot
    | none => s

/-- The state after `CompleteQuest`, before a tracking quest is rewarded. -/
def markComplete (w : World) (questId : Nat) : PlayerState :=
  let s := s.setQuestStatus w questId .complete
  match s.findQuestSlot questId with
  | some slot => s.setQuestSlotState slot true false
  | none => s

end PlayerState

/-- How a tracking quest is rewarded. `RewardQuest` takes and gives items and so runs the checks
below again. -/
abbrev Reward := Quest → PlayerState → PlayerState

namespace PlayerState

variable (w : World) (reward : Reward) (s : PlayerState)

def completeQuest (questId : Nat) : PlayerState :=
  if questId = 0 then s
  else
    let s := s.markComplete w questId
    match w.getQuestTemplate questId with
    | some quest => if quest.tracking then reward quest s else s
    | none => s

/-- The objective that `ItemAddedQuestCheck` stops at. -/
def addedTarget (entry : Nat) : List (Fin maxQuestLogSize) → PlayerState →
    PlayerState × Option (Nat × Quest × Fin questItemObjectivesCount)
  | [], s => (s, none)
  | slot :: rest, s =>
    let questId := (s.slots slot).questId
    if questId = 0 then addedTarget entry rest s
    else
      let s := s.touch questId
      if (s.data questId).status ≠ .incomplete then addedTarget entry rest s
      else match w.getQuestTemplate questId with
        | none => addedTarget entry rest s
        | some quest =>
          match if quest.deliver then quest.objective entry else none with
          | none => addedTarget entry rest s
          | some j => (s, some (questId, quest, j))

/-- The counter after an item was added: the arithmetic is done in `uint32`, the amount added is
a `uint16`. -/
def addedCount (curitemcount reqitemcount count : Nat) : Nat :=
  if curitemcount < reqitemcount then
    let additemcount := toUInt16
      (if toUInt32 (curitemcount + count) ≤ reqitemcount then count
       else reqitemcount - curitemcount)
    curitemcount + additemcount
  else curitemcount

def setItemCount (questId : Nat) (j : Fin questItemObjectivesCount) (count : Nat) : PlayerState :=
  s.setData questId { s.data questId with
    itemCount := Function.update (s.data questId).itemCount j (UInt16.ofNat count) }

def itemAddedQuestCheck (entry count : Nat) : PlayerState :=
  match addedTarget w entry allSlots s with
  | (s, none) => s
  | (s, some (questId, quest, j)) =>
    let s := s.setItemCount questId j
      (addedCount ((s.data questId).itemCount j).toNat (quest.requiredItemCount j) count)
    if s.canCompleteQuest w questId then s.completeQuest w reward questId else s

/-- The objective that `ItemRemovedQuestCheck` stops at. -/
def removedTarget (entry : Nat) (slots : List (Fin maxQuestLogSize)) :
    Option (Nat × Quest × Fin questItemObjectivesCount) :=
  slots.findSome? fun slot =>
    let questId := (s.slots slot).questId
    if questId = 0 then none
    else match w.getQuestTemplate questId with
      | none => none
      | some quest =>
        (if quest.deliver then quest.objective entry else none).map fun j => (questId, quest, j)

/-- The counter after items were removed, when the check changes it. -/
def removedCount (curitemcount reqitemcount count : Nat) : Option Nat :=
  if curitemcount < toUInt32 (reqitemcount + count) then
    let remitemcount := toUInt16
      (if curitemcount ≤ reqitemcount then count
       else toUInt32 (count + reqitemcount - curitemcount))
    some (if curitemcount ≤ remitemcount then 0 else curitemcount - remitemcount)
  else none

def itemRemovedQuestCheck (entry count : Nat) : PlayerState :=
  match s.removedTarget w entry allSlots with
  | none => s
  | some (questId, quest, j) =>
    let s := s.touch questId
    let curitemcount :=
      if (s.data questId).status ≠ .complete then ((s.data questId).itemCount j).toNat
      else toUInt16 (s.inventory.getItemCount w.items entry true none)
    match removedCount curitemcount (quest.requiredItemCount j) count with
    | none => s
    | some left => (s.setItemCount questId j left).incompleteQuest w questId

/-- One slot of `MoneyChanged`, with the new wallet as an `int32`. -/
def moneyChangedAt (count : Int) (s : PlayerState) (slot : Fin maxQuestLogSize) : PlayerState :=
  let questId := (s.slots slot).questId
  if questId = 0 then s
  else match w.getQuestTemplate questId with
    | none => s
    | some quest =>
      if quest.rewOrReqMoney < 0 then
        let s := s.touch questId
        match (s.data questId).status with
        | .incomplete =>
          if -quest.rewOrReqMoney ≤ count ∧ s.canCompleteQuest w questId = true then
            s.completeQuest w reward questId
          else s
        | .complete => if count < -quest.rewOrReqMoney then s.incompleteQuest w questId else s
        | _ => s
      else s

/-- The argument is a `uint32`, read as an `int32`. -/
def moneyChanged (count : Nat) : PlayerState :=
  allSlots.foldl (moneyChangedAt w reward (toInt32 (toUInt32 count))) s

def setMoney (value : Nat) : PlayerState :=
  moneyChanged w reward { s with money := value } value

end PlayerState

namespace PlayerState

section

variable (w : World) (s : PlayerState)

/-- Two states with the same items, wallet and quests in the slots. -/
structure SameItems (s t : PlayerState) : Prop where
  inventory : t.inventory = s.inventory
  money : t.money = s.money
  nextGuid : t.nextGuid = s.nextGuid
  rewarded : t.rewardedQuests = s.rewardedQuests
  questId : ∀ slot, (t.slots slot).questId = (s.slots slot).questId

theorem SameItems.refl : SameItems s s := ⟨rfl, rfl, rfl, rfl, fun _ => rfl⟩

variable {w s} {t u : PlayerState}

theorem SameItems.trans (first : SameItems s t) (second : SameItems t u) : SameItems s u :=
  ⟨second.inventory.trans first.inventory, second.money.trans first.money,
    second.nextGuid.trans first.nextGuid, second.rewarded.trans first.rewarded,
    fun slot => (second.questId slot).trans (first.questId slot)⟩

theorem setData_same (questId : Nat) (data : QuestStatusData) :
    SameItems s (s.setData questId data) := ⟨rfl, rfl, rfl, rfl, fun _ => rfl⟩

theorem touch_same (questId : Nat) : SameItems s (s.touch questId) := setData_same questId _

theorem setItemCount_same (questId : Nat) (j : Fin questItemObjectivesCount) (count : Nat) :
    SameItems s (s.setItemCount questId j count) := setData_same questId _

theorem setQuestStatus_same (questId : Nat) (status : QuestStatus) :
    SameItems s (s.setQuestStatus w questId status) := by
  unfold setQuestStatus
  split
  · exact setData_same questId _
  · exact SameItems.refl s

theorem setSlot_same {slot : Fin maxQuestLogSize} {content : QuestSlot}
    (same : content.questId = (s.slots slot).questId) : SameItems s (s.setSlot slot content) := by
  refine ⟨rfl, rfl, rfl, rfl, fun other => ?_⟩
  unfold setSlot
  by_cases here : other = slot
  · subst here
    simpa using same
  · simp [Function.update_of_ne here]

theorem incompleteQuest_same (questId : Nat) : SameItems s (s.incompleteQuest w questId) := by
  unfold incompleteQuest
  split
  · exact SameItems.refl s
  simp only
  split
  · exact (setQuestStatus_same questId _).trans (setSlot_same rfl)
  · exact setQuestStatus_same questId _

theorem markComplete_same (questId : Nat) : SameItems s (s.markComplete w questId) := by
  unfold markComplete
  simp only
  split
  · exact (setQuestStatus_same questId _).trans (setSlot_same rfl)
  · exact setQuestStatus_same questId _

theorem itemRemovedQuestCheck_same (entry count : Nat) :
    SameItems s (s.itemRemovedQuestCheck w entry count) := by
  unfold itemRemovedQuestCheck
  split
  · exact SameItems.refl s
  next questId quest j target =>
  simp only
  split
  · exact touch_same questId
  · exact ((touch_same questId).trans (setItemCount_same questId j _)).trans
      (incompleteQuest_same questId)

end

section

variable {s : PlayerState}

@[simp] theorem data_setData (questId other : Nat) (data : QuestStatusData) :
    (s.setData questId data).data other = if other = questId then data else s.data other := by
  unfold PlayerState.data setData
  by_cases same : other = questId
  · subst same
    simp
  · simp [same]

@[simp] theorem data_touch (questId other : Nat) : (s.touch questId).data other = s.data other := by
  unfold touch
  rw [data_setData]
  split
  · next same => rw [same]
  · rfl

@[simp] theorem data_setSlot (slot : Fin maxQuestLogSize) (content : QuestSlot) (questId : Nat) :
    (s.setSlot slot content).data questId = s.data questId := rfl

variable {w : World}

end

end PlayerState

end OpenWoW.Quests
