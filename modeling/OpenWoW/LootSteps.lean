import OpenWoW.Loot

/-! What one request does to a loot, and what no request changes. -/
namespace OpenWoW.Looting

/-- The part of an item that is set when it is generated. -/
def LootItem.fixed (item : LootItem) : Nat × List Nat × Bool × Bool × Bool :=
  (item.itemid, item.conditions, item.freeforall, item.needsQuest, item.followLootRules)

def indices (map : QuestItemMap) : List (Nat × List Nat) :=
  map.map fun x => (x.1, x.2.map QuestItem.index)

/-- What a call of `StoreLootItem` stores, if it does. -/
def storedEvents (player : Nat) (found : Found) : List Event :=
  if found.item.count = 0 then []
  else [.stored player found.source found.entry.isSome found.item.count]

/-- An item that the master looter gave away. -/
def giveItem (item : LootItem) : LootItem := { item with count := 0, isLooted := true }

def givenEvents (target : Nat) (source : Source) (item : LootItem) : List Event :=
  if item.count = 0 then [] else [.given target source item.count]

variable (protos : Prototypes) (loot : Loot) (request : Request) (player lootSlot : Nat)
  (canStore : Bool) (entry : Option (ListKind × Nat)) (source : Source)

namespace Loot

@[simp] theorem item?_plain (i : Nat) : loot.item? (.plain i) = loot.items[i]? := rfl

@[simp] theorem item?_quest (j : Nat) :
    loot.item? (.quest j) = loot.questItems[j]? := rfl

theorem item?_modifyItem (other : Source) (f : LootItem → LootItem) :
    (loot.modifyItem source f).item? other =
      if source = other then (loot.item? other).map f else loot.item? other := by
  cases source <;> cases other <;> simp [modifyItem, item?, List.getElem?_modify]
  all_goals split <;> simp

@[simp] theorem item?_markEntry : (loot.markEntry player entry).item? source = loot.item? source := by
  cases source <;> rcases entry with _ | ⟨_ | _ | _, pos⟩ <;> rfl

/-- What `StoreLootItem` finds in a slot: an own quest entry, a plain item that an own list
names, or a plain item without such an entry. -/
inductive FoundBy (loot : Loot) (lootSlot player : Nat) : Found → Prop
  | quest (ql : List QuestItem) (entry : QuestItem) (item : LootItem)
      (past : loot.items.length ≤ lootSlot)
      (own : loot.playerQuestItems.lookup player = some ql)
      (position : ql[lootSlot - loot.items.length]? = some entry)
      (here : loot.questItems[entry.index]? = some item) (left : entry.isLooted = false) :
      FoundBy loot lootSlot player
        ⟨.quest entry.index, item, some (.quest, lootSlot - loot.items.length)⟩
  | ffa (ql : List QuestItem) (entry : QuestItem) (pos : Nat) (item : LootItem)
      (here : loot.items[lootSlot]? = some item) (shared : item.freeforall = true)
      (own : loot.playerFFAItems.lookup player = some ql)
      (position : ql[pos]? = some entry) (same : entry.index = lootSlot)
      (left : entry.isLooted = false) :
      FoundBy loot lootSlot player ⟨.plain lootSlot, item, some (.ffa, pos)⟩
  | conditional (ql : List QuestItem) (entry : QuestItem) (pos : Nat) (item : LootItem)
      (here : loot.items[lootSlot]? = some item) (single : item.freeforall = false)
      (conditions : item.conditions.isEmpty = false)
      (own : loot.playerNonQuestNonFFAConditionalItems.lookup player = some ql)
      (position : ql[pos]? = some entry) (same : entry.index = lootSlot)
      (left : entry.isLooted = false) :
      FoundBy loot lootSlot player ⟨.plain lootSlot, item, some (.conditional, pos)⟩
  | unlisted (item : LootItem) (here : loot.items[lootSlot]? = some item)
      (left : item.isLooted = false)
      (ffa : item.freeforall = true → findEntry loot.playerFFAItems player lootSlot = none)
      (conditional : item.freeforall = false → item.conditions.isEmpty = false →
        findEntry loot.playerNonQuestNonFFAConditionalItems player lootSlot = none) :
      FoundBy loot lootSlot player ⟨.plain lootSlot, item, none⟩

theorem findEntry_some {map : QuestItemMap} {player lootSlot : Nat} {entry : QuestItem}
    {pos : Nat} (found : findEntry map player lootSlot = some (entry, pos)) :
    ∃ ql, map.lookup player = some ql ∧ ql[pos]? = some entry ∧ entry.index = lootSlot := by
  unfold findEntry at found
  split at found
  · cases found
  rename_i ql own
  have mem := List.mem_of_find?_eq_some found
  have index := List.find?_some found
  rw [List.mem_zipIdx_iff_getElem?] at mem
  exact ⟨ql, own, mem, of_decide_eq_true index⟩

theorem lootItemInSlot_found {loot : Loot} {lootSlot player : Nat} {found : Found}
    (some : loot.lootItemInSlot lootSlot player = some found) :
    FoundBy loot lootSlot player found := by
  unfold lootItemInSlot at some
  split at some
  · rename_i past
    simp only [Option.bind_eq_bind, Option.bind_eq_some_iff] at some
    obtain ⟨ql, own, entry, position, item, here, some⟩ := some
    split at some
    · cases some
    rename_i left
    obtain rfl := Option.some.inj some
    exact .quest ql entry item past own position here (by simpa using left)
  · simp only [Option.bind_eq_bind, Option.bind_eq_some_iff] at some
    obtain ⟨item, here, some⟩ := some
    by_cases shared : item.freeforall = true
    · simp only [shared, if_true] at some
      cases entry : findEntry loot.playerFFAItems player lootSlot with
      | none =>
        simp only [entry, Option.map_none] at some
        split at some
        · cases some
        rename_i left
        obtain rfl := Option.some.inj some
        exact .unlisted item here (by simpa using left) (fun _ => entry)
          (fun single => by rw [shared] at single; cases single)
      | some x =>
        simp only [entry, Option.map_some] at some
        split at some
        · cases some
        rename_i left
        obtain rfl := Option.some.inj some
        obtain ⟨ql, own, position, same⟩ := findEntry_some entry
        exact .ffa ql x.1 x.2 item here shared own position same (by simpa using left)
    · have single : item.freeforall = false := by simpa using shared
      by_cases conditions : item.conditions.isEmpty = true
      · simp only [single, conditions, if_true, Bool.false_eq_true, if_false] at some
        split at some
        · cases some
        rename_i left
        obtain rfl := Option.some.inj some
        exact .unlisted item here (by simpa using left) (fun both => absurd both shared)
          (fun _ other => by rw [conditions] at other; cases other)
      · have guarded : item.conditions.isEmpty = false := by simpa using conditions
        simp only [single, guarded, Bool.false_eq_true, if_false] at some
        cases entry : findEntry loot.playerNonQuestNonFFAConditionalItems player lootSlot with
        | none =>
          simp only [entry, Option.map_none] at some
          split at some
          · cases some
          rename_i left
          obtain rfl := Option.some.inj some
          exact .unlisted item here (by simpa using left) (fun both => absurd both shared)
            (fun _ _ => entry)
        | some x =>
          simp only [entry, Option.map_some] at some
          split at some
          · cases some
          rename_i left
          obtain rfl := Option.some.inj some
          obtain ⟨ql, own, position, same⟩ := findEntry_some entry
          exact .conditional ql x.1 x.2 item here single guarded own position same
            (by simpa using left)

theorem FoundBy.item_here {loot : Loot} {lootSlot player : Nat} {found : Found}
    (by_ : FoundBy loot lootSlot player found) : loot.item? found.source = some found.item := by
  cases by_ <;> assumption

/-- The calls of `StoreLootItem` that come to the store. -/
def storesLoot (loot : Loot) (player lootSlot : Nat) (canStore : Bool) (found : Found) : Prop :=
  loot.lootItemInSlot lootSlot player = some found ∧ blocks found = false ∧ canStore = true

theorem storeLootItem_cases :
    loot.storeLootItem player lootSlot canStore = (loot, []) ∨
      ∃ found, loot.storesLoot player lootSlot canStore found ∧
        loot.storeLootItem player lootSlot canStore =
          (loot.take player found, storedEvents player found) := by
  unfold storeLootItem
  split
  · exact .inl rfl
  rename_i found here
  split
  · exact .inl rfl
  rename_i free
  split
  · rename_i fits
    exact .inr ⟨found, ⟨here, by simpa using free, fits⟩, rfl⟩
  · exact .inl rfl

/-- The calls of `HandleLootMasterGiveOpcode` that give something away, and what. -/
def givesLoot (protos : Prototypes) (loot : Loot) (ready : Bool) (slotid : Nat)
    (target : Player) (canStore : Bool) (source : Source) (item : LootItem) : Prop :=
  loot.masterItem slotid = some (source, item) ∧ ready = true ∧ canStore = true ∧
    (item.followLootRules = true → item.allowedForPlayer protos target = true)

theorem masterItem_here {loot : Loot} {slotid : Nat} {source : Source} {item : LootItem}
    (named : loot.masterItem slotid = some (source, item)) : loot.item? source = some item := by
  unfold masterItem at named
  split at named
  · cases named
  obtain ⟨_, here, same⟩ := Option.map_eq_some_iff.mp named
  cases same
  exact here

def given (loot : Loot) (source : Source) : Loot :=
  { loot.modifyItem source giveItem with
    unlootedCount := (loot.modifyItem source giveItem).unlootedCount - 1 }

theorem masterGive_cases (protos : Prototypes) (ready : Bool) (slotid : Nat)
    (target : Player) (canStore : Bool) :
    loot.masterGive protos ready slotid target canStore = (loot, []) ∨
      ∃ source item, loot.givesLoot protos ready slotid target canStore source item ∧
        loot.masterGive protos ready slotid target canStore =
          (loot.given source, givenEvents target.guid source item) := by
  unfold masterGive
  split
  · exact .inl rfl
  rename_i passed
  split
  · exact .inl rfl
  rename_i source item named
  split
  · exact .inl rfl
  rename_i allowed
  simp only [Bool.or_eq_true, not_or, Bool.not_eq_true', Bool.not_eq_false,
    Bool.and_eq_true, not_and] at passed allowed
  exact .inr ⟨source, item, ⟨named, passed, allowed.1, fun follows => by
    simpa using allowed.2 follows⟩, rfl⟩

end Loot

/-- What a request can lead to: nothing, a stored item, a given item or no money any more. -/
inductive Steps (protos : Prototypes) (loot : Loot) : Request → Loot × List Event → Prop
  | refused (request : Request) : Steps protos loot request (loot, [])
  | stored (player lootSlot : Nat) (canStore : Bool) (found : Found)
      (stores : loot.storesLoot player lootSlot canStore found) :
      Steps protos loot (.storeLootItem player lootSlot canStore)
        (loot.take player found, storedEvents player found)
  | given (ready : Bool) (slotid : Nat) (target : Player) (canStore : Bool) (source : Source)
      (item : LootItem) (gives : loot.givesLoot protos ready slotid target canStore source item) :
      Steps protos loot (.lootMasterGive ready slotid target canStore)
        (loot.given source, givenEvents target.guid source item)
  | money : Steps protos loot .lootMoney (loot.lootMoney, [])

theorem step_steps :
    Steps protos loot request (step protos loot request) := by
  cases request with
  | storeLootItem player lootSlot canStore =>
    change Steps protos loot _ (loot.storeLootItem player lootSlot canStore)
    rcases loot.storeLootItem_cases player lootSlot canStore with same | ⟨found, stores, result⟩
    · rw [same]
      exact .refused _
    · rw [result]
      exact .stored player lootSlot canStore found stores
  | lootMasterGive ready slotid target canStore =>
    change Steps protos loot _ (loot.masterGive protos ready slotid target canStore)
    rcases loot.masterGive_cases protos ready slotid target canStore with
      same | ⟨source, item, gives, result⟩
    · rw [same]
      exact .refused _
    · rw [result]
      exact .given ready slotid target canStore source item gives
  | lootMoney => exact .money

namespace Loot

/-- The items as they were generated and the positions in the players' lists stay. -/
structure SameShape (before after : Loot) : Prop where
  items : after.items.map LootItem.fixed = before.items.map LootItem.fixed
  questItems : after.questItems.map LootItem.fixed = before.questItems.map LootItem.fixed
  quest : indices after.playerQuestItems = indices before.playerQuestItems
  ffa : indices after.playerFFAItems = indices before.playerFFAItems
  conditional : indices after.playerNonQuestNonFFAConditionalItems =
    indices before.playerNonQuestNonFFAConditionalItems

theorem SameShape.refl : SameShape loot loot := ⟨rfl, rfl, rfl, rfl, rfl⟩

theorem SameShape.trans {a b c : Loot} (first : SameShape a b) (second : SameShape b c) :
    SameShape a c :=
  ⟨second.items.trans first.items, second.questItems.trans first.questItems,
    second.quest.trans first.quest, second.ffa.trans first.ffa,
    second.conditional.trans first.conditional⟩

theorem map_fixed_modify (items : List LootItem) (i : Nat) (f : LootItem → LootItem)
    (keeps : ∀ item, (f item).fixed = item.fixed) :
    (items.modify i f).map LootItem.fixed = items.map LootItem.fixed := by
  induction items generalizing i with
  | nil => cases i <;> rfl
  | cons item items ih =>
    cases i with
    | zero => simp [keeps]
    | succ i => simp [ih]

theorem indices_setLooted (map : QuestItemMap) (player pos : Nat) :
    indices (setLooted map player pos) = indices map := by
  have one (ql : List QuestItem) (i : Nat) :
      (ql.modify i fun entry => { entry with isLooted := true }).map QuestItem.index =
        ql.map QuestItem.index := by
    induction ql generalizing i with
    | nil => cases i <;> rfl
    | cons entry ql ih =>
      cases i with
      | zero => simp
      | succ i => simp [ih]
  unfold indices setLooted
  rw [List.map_map]
  apply List.map_congr_left
  intro x _
  by_cases same : x.1 = player
  · simp [same, one]
  · simp [same]

theorem sameShape_modifyItem (f : LootItem → LootItem)
    (keeps : ∀ item, (f item).fixed = item.fixed) : SameShape loot (loot.modifyItem source f) := by
  cases source with
  | plain i => exact ⟨map_fixed_modify _ i f keeps, rfl, rfl, rfl, rfl⟩
  | quest j => exact ⟨rfl, map_fixed_modify _ j f keeps, rfl, rfl, rfl⟩

theorem sameShape_markEntry :
    SameShape loot (loot.markEntry player entry) := by
  rcases entry with _ | ⟨_ | _ | _, pos⟩
  · exact SameShape.refl loot
  · exact ⟨rfl, rfl, indices_setLooted _ player pos, rfl, rfl⟩
  · exact ⟨rfl, rfl, rfl, indices_setLooted _ player pos, rfl⟩
  · exact ⟨rfl, rfl, rfl, rfl, indices_setLooted _ player pos⟩

theorem sameShape_take (found : Found) :
    SameShape loot (loot.take player found) := by
  have marked := sameShape_markEntry loot player found.entry
  unfold take
  split
  · exact ⟨marked.items, marked.questItems, marked.quest, marked.ffa, marked.conditional⟩
  have looted := marked.trans (sameShape_modifyItem _ found.source
    (fun item => { item with isLooted := true }) fun _ => rfl)
  exact ⟨looted.items, looted.questItems, looted.quest, looted.ffa, looted.conditional⟩

theorem sameShape_given : SameShape loot (loot.given source) := by
  have looted := sameShape_modifyItem loot source giveItem fun _ => rfl
  exact ⟨looted.items, looted.questItems, looted.quest, looted.ffa, looted.conditional⟩

theorem sameShape_storeLootItem :
    SameShape loot (loot.storeLootItem player lootSlot canStore).1 := by
  rcases storeLootItem_cases loot player lootSlot canStore with same | ⟨found, _, result⟩
  · rw [same]
    exact SameShape.refl loot
  · rw [result]
    exact sameShape_take loot player found

end Loot

theorem sameShape_step :
    loot.SameShape (step protos loot request).1 := by
  have steps := step_steps protos loot request
  generalize step protos loot request = next at steps
  cases steps with
  | refused => exact Loot.SameShape.refl loot
  | stored player _ _ found => exact Loot.sameShape_take loot player found
  | given _ _ _ _ source => exact Loot.sameShape_given loot source
  | money => exact ⟨rfl, rfl, rfl, rfl, rfl⟩

end OpenWoW.Looting
