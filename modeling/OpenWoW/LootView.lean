import Mathlib.Data.List.Nodup
import OpenWoW.LootFill

/-! The slot numbers of the loot window against the slots that the requests name. -/
namespace OpenWoW.Looting

open List Option

/-- A loot as the filling and the requests leave it. -/
structure LootState where
  loot : Loot
  wellFormed : loot.WellFormed

def LootState.filled (fill : Fill) (gold : Nat) : LootState :=
  ⟨(fill.fillLoot gold).1, fill.fillLoot_wellFormed gold⟩

theorem mem_indices_of_lookup {map : QuestItemMap} {player : Nat} {ql : List QuestItem}
    (own : map.lookup player = some ql) : (player, ql.map QuestItem.index) ∈ indices map :=
  mem_map.mpr ⟨(player, ql), lookup_mem own, rfl⟩

theorem Loot.findEntry_of_mem {map : QuestItemMap} {player : Nat} {ql : List QuestItem}
    {entry : QuestItem} (own : map.lookup player = some ql)
    (unique : (ql.map QuestItem.index).Nodup) (mem : entry ∈ ql) :
    ∃ pos, Loot.findEntry map player entry.index = some (entry, pos) := by
  obtain ⟨pos, there⟩ := mem_iff_getElem?.mp mem
  have candidate : (entry, pos) ∈ ql.zipIdx := List.mem_zipIdx_iff_getElem?.mpr there
  cases result : Loot.findEntry map player entry.index with
  | none =>
    simp only [Loot.findEntry, own, find?_eq_none] at result
    exact absurd (by simp) (result (entry, pos) candidate)
  | some found =>
    obtain ⟨other, otherOwn, at_, same⟩ := Loot.findEntry_some
      (show Loot.findEntry map player entry.index = some (found.1, found.2) from result)
    obtain rfl := some.inj (own.symm.trans otherOwn)
    have equal : found.1 = entry :=
      inj_on_of_nodup_map unique (mem_of_getElem? at_) mem same
    exact ⟨found.2, by rw [← equal]⟩

theorem toNat_slot (i : Nat) (small : i < maxNrLootItems) : (UInt8.ofNat i).toNat = i := by
  rw [UInt8.toNat_ofNat', Nat.mod_eq_of_lt]
  exact Nat.lt_trans small (by decide)

namespace Loot

/-- Master looting resolves a slot past the plain items by its number alone: it means the
viewer's own entry only where that entry stands at its own index. -/
def slotIsIndex (loot : Loot) (viewer slot : Nat) : Prop :=
  loot.items.length ≤ slot → ∀ ql, loot.playerQuestItems.lookup viewer = some ql →
    ∀ entry, ql[slot - loot.items.length]? = some entry → entry.index = slot - loot.items.length

/-- Both requests take a slot for the element that was shown in it. -/
def agrees (loot : Loot) (viewer : Nat) (shown : Shown) : Prop :=
  (loot.lootItemInSlot shown.slot.toNat viewer).map (·.source) = some shown.source ∧
    (loot.masterItem shown.slot.toNat).map (·.1) = some shown.source

variable {loot : Loot}

theorem masterItem_plain {i : Nat} {item : LootItem}
    (here : loot.items[i]? = some item) : loot.masterItem i = some (.plain i, item) := by
  have inside := (List.getElem?_eq_some_iff.mp here).1
  rw [masterItem, if_neg (by omega), masterSource, if_neg (by omega), item?_plain, here]
  rfl

theorem agrees_plain {viewer i : Nat} (slotType : LootSlotType) {item : LootItem}
    (few : loot.items.length ≤ maxNrLootItems) (here : loot.items[i]? = some item)
    (found : (loot.lootItemInSlot i viewer).map (·.source) = some (.plain i)) :
    loot.agrees viewer ⟨UInt8.ofNat i, .plain i, slotType⟩ ∧
      loot.slotIsIndex viewer (UInt8.ofNat i).toNat := by
  have inside := (List.getElem?_eq_some_iff.mp here).1
  have slot := toNat_slot i (by omega)
  refine ⟨⟨?_, ?_⟩, ?_⟩
  · rw [slot]
    exact found
  · rw [slot, masterItem_plain here]
    rfl
  · rw [slot]
    intro past
    omega

theorem lootItemInSlot_listed {viewer : Nat} {entry : QuestItem} {item : LootItem}
    {ql : List QuestItem} (here : loot.items[entry.index]? = some item)
    (left : entry.isLooted = false)
    (listed : item.freeforall = true ∧ loot.playerFFAItems.lookup viewer = some ql ∨
      item.freeforall = false ∧ item.conditions.isEmpty = false ∧
        loot.playerNonQuestNonFFAConditionalItems.lookup viewer = some ql)
    (unique : (ql.map QuestItem.index).Nodup) (mem : entry ∈ ql) :
    (loot.lootItemInSlot entry.index viewer).map (·.source) = some (.plain entry.index) := by
  have inside := (List.getElem?_eq_some_iff.mp here).1
  have before : ¬ loot.items.length ≤ entry.index := by omega
  rcases listed with ⟨shared, own⟩ | ⟨single, guarded, own⟩
  · obtain ⟨pos, found⟩ := findEntry_of_mem own unique mem
    simp [lootItemInSlot, before, here, shared, found, left]
  obtain ⟨pos, found⟩ := findEntry_of_mem own unique mem
  simp only [lootItemInSlot, before, if_false, here, bind_eq_bind, bind_some,
    single, Bool.false_eq_true, guarded, found, left, map_some]

theorem agrees_shownListed {viewer : Player} {map : QuestItemMap}
    {slotType : LootItem → LootSlotType} {shown : Shown}
    (few : loot.items.length ≤ maxNrLootItems)
    (listed : ∀ ql, map.lookup viewer.guid = some ql → (ql.map QuestItem.index).Nodup ∧
      ∀ entry ∈ ql, ∀ item, loot.items[entry.index]? = some item →
        item.freeforall = true ∧ loot.playerFFAItems.lookup viewer.guid = some ql ∨
        item.freeforall = false ∧ item.conditions.isEmpty = false ∧
          loot.playerNonQuestNonFFAConditionalItems.lookup viewer.guid = some ql)
    (mem : shown ∈ loot.shownListed map viewer slotType) :
    loot.agrees viewer.guid shown ∧ loot.slotIsIndex viewer.guid shown.slot.toNat := by
  obtain ⟨entry, inList, line⟩ := mem_filterMap.mp mem
  obtain ⟨item, here, line⟩ := bind_eq_some_iff.mp line
  split at line
  · cases line
  rename_i left
  obtain rfl := some.inj line
  simp only [Bool.or_eq_true, not_or, Bool.not_eq_true] at left
  cases own : map.lookup viewer.guid with
  | none => simp [own] at inList
  | some ql =>
    rw [own] at inList
    obtain ⟨unique, kinds⟩ := listed ql own
    exact agrees_plain _ few here
      (lootItemInSlot_listed here left.1 (kinds entry inList item here) unique inList)

theorem agrees_shownPlain {protos : Prototypes} {viewer : Player}
    {permission : PermissionTypes} {shown : Shown} (few : loot.items.length ≤ maxNrLootItems)
    (mem : shown ∈ loot.shownPlain protos viewer permission) :
    loot.agrees viewer.guid shown ∧ loot.slotIsIndex viewer.guid shown.slot.toNat := by
  obtain ⟨x, inList, line⟩ := mem_filterMap.mp mem
  have here := List.mem_zipIdx_iff_getElem?.mp inList
  split at line
  · rename_i visible
    obtain ⟨slotType, _, rfl⟩ := map_eq_some_iff.mp line
    simp only [Bool.and_eq_true, Bool.not_eq_true'] at visible
    obtain ⟨⟨⟨left, single⟩, free⟩, _⟩ := visible
    have inside := (List.getElem?_eq_some_iff.mp here).1
    have before : ¬ loot.items.length ≤ x.2 := by omega
    apply agrees_plain slotType few here
    simp only [lootItemInSlot, before, if_false, here, bind_eq_bind, bind_some,
      single, Bool.false_eq_true, free, if_true, left, map_some]
  · cases line

theorem agrees_shownQuest {viewer : Player} {permission : PermissionTypes} {shown : Shown}
    (formed : loot.WellFormed) (mem : shown ∈ loot.shownQuest viewer permission) :
    loot.agrees viewer.guid shown ↔ loot.slotIsIndex viewer.guid shown.slot.toNat := by
  obtain ⟨x, inList, line⟩ := mem_filterMap.mp mem
  obtain ⟨item, here, line⟩ := bind_eq_some_iff.mp line
  split at line
  · cases line
  rename_i left
  obtain rfl := some.inj line
  simp only [Bool.or_eq_true, not_or, Bool.not_eq_true] at left
  cases own : loot.playerQuestItems.lookup viewer.guid with
  | none => simp [own] at inList
  | some ql =>
    rw [own] at inList
    have position : ql[x.2]? = some x.1 := List.mem_zipIdx_iff_getElem?.mp inList
    have within := (List.getElem?_eq_some_iff.mp position).1
    have inside := (List.getElem?_eq_some_iff.mp here).1
    have short := (formed.quest _ (mem_indices_of_lookup own)).2.1
    rw [length_map] at short
    have slot := toNat_slot (loot.items.length + x.2) (by omega)
    have found : (loot.lootItemInSlot (loot.items.length + x.2) viewer.guid).map (·.source) =
        some (.quest x.1.index) := by
      simp [lootItemInSlot, own, position, here, left.1]
    simp only [agrees, slotIsIndex, slot, found, true_and]
    constructor
    · intro given _ other otherOwn entry at_
      obtain rfl := some.inj (own.symm.trans otherOwn)
      rw [Nat.add_sub_cancel_left] at at_ ⊢
      obtain rfl := some.inj (position.symm.trans at_)
      obtain ⟨pair, named, same⟩ := map_eq_some_iff.mp given
      unfold masterItem at named
      split at named
      · cases named
      obtain ⟨_, _, rfl⟩ := map_eq_some_iff.mp named
      simp only [masterSource, Nat.le_add_right, if_true, Nat.add_sub_cancel_left,
        Source.quest.injEq] at same
      exact same.symm
    · intro same
      have index := same (Nat.le_add_right _ _) ql own x.1 (by
        rw [Nat.add_sub_cancel_left]
        exact position)
      rw [Nat.add_sub_cancel_left] at index
      rw [index] at inside here ⊢
      rw [masterItem, if_neg (by omega)]
      simp [masterSource, here]

end Loot

/-- Whatever the loot, the viewer and his permission: a shown slot means the shown element to
both requests exactly where the viewer's quest entry stands at its own index. -/
theorem view_agrees_iff (protos : Prototypes) (state : LootState) (viewer : Player)
    (permission : PermissionTypes) :
    ∀ shown ∈ state.loot.view protos viewer permission,
      state.loot.agrees viewer.guid shown ↔
        state.loot.slotIsIndex viewer.guid shown.slot.toNat := by
  intro shown mem
  have formed := state.wellFormed
  unfold Loot.view at mem
  split at mem
  · cases mem
  simp only [mem_append] at mem
  rcases mem with ((plain | quest) | ffa) | conditional
  · have both := Loot.agrees_shownPlain formed.few plain
    exact ⟨fun _ => both.2, fun _ => both.1⟩
  · exact Loot.agrees_shownQuest formed quest
  · have both := Loot.agrees_shownListed formed.few (fun ql own => by
      have listed := formed.ffa _ (mem_indices_of_lookup own)
      refine ⟨listed.1, fun entry inList item here => .inl ⟨?_, own⟩⟩
      obtain ⟨other, there, shared⟩ := listed.2 entry.index (mem_map_of_mem inList)
      obtain rfl := some.inj (here.symm.trans there)
      exact shared) ffa
    exact ⟨fun _ => both.2, fun _ => both.1⟩
  · have both := Loot.agrees_shownListed formed.few (fun ql own => by
      have listed := formed.conditional _ (mem_indices_of_lookup own)
      refine ⟨listed.1, fun entry inList item here => .inr ?_⟩
      obtain ⟨other, there, single, guarded⟩ :=
        listed.2 entry.index (mem_map_of_mem inList)
      obtain rfl := some.inj (here.symm.trans there)
      exact ⟨single, guarded, own⟩) conditional
    exact ⟨fun _ => both.2, fun _ => both.1⟩

/-- The master looter has the quest for the second of two quest items only. -/
def filteredFill : Fill where
  protos := fun _ => some plainPrototype
  rolled := [questDrop 11, questDrop 12]
  lootOwner := questPlayer 1 (some ⟨.masterLoot, 1⟩) [12]
  group := some
    { members := [(questPlayer 1 (some ⟨.masterLoot, 1⟩) [12], true)]
      lootThreshold := 2
      distinct := by decide }
  canStore := fun _ _ => true

def filteredShown : Shown := ⟨0, .quest 1, .allowLoot⟩

theorem filteredShown_mem : filteredShown ∈ (LootState.filled filteredFill 0).loot.view
    filteredFill.protos filteredFill.lootOwner .master := by
  decide

theorem filteredShown_differs :
    ¬ (LootState.filled filteredFill 0).loot.agrees filteredFill.lootOwner.guid filteredShown := by
  rintro ⟨-, master⟩
  have given : ((LootState.filled filteredFill 0).loot.masterItem filteredShown.slot.toNat).map
      (·.1) = some (.quest 0) := rfl
  rw [given] at master
  cases master

theorem view_agrees_iff_filtered :
    ¬ (LootState.filled filteredFill 0).loot.slotIsIndex filteredFill.lootOwner.guid
      filteredShown.slot.toNat :=
  fun index => filteredShown_differs
    ((view_agrees_iff filteredFill.protos (LootState.filled filteredFill 0) filteredFill.lootOwner
      .master filteredShown filteredShown_mem).mpr index)

/-- The slot that the master looter is shown the second quest item in is the first one's to
`HandleLootMasterGiveOpcode`. -/
theorem view_not_agrees :
    ¬ ∀ (protos : Prototypes) (state : LootState) (viewer : Player)
      (permission : PermissionTypes), ∀ shown ∈ state.loot.view protos viewer permission,
        state.loot.agrees viewer.guid shown :=
  fun agrees => filteredShown_differs
    (agrees filteredFill.protos (LootState.filled filteredFill 0) filteredFill.lootOwner .master
      filteredShown filteredShown_mem)

end OpenWoW.Looting
