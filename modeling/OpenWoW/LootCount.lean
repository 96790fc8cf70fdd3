import Mathlib
import OpenWoW.Lib.Counting
import OpenWoW.LootFreeForAll

/-! The eight-bit counter of a loot against the grants that are still outstanding. -/
namespace OpenWoW.Looting

open List

def plainWaits (item : LootItem) : Bool :=
  !item.freeforall && !item.isLooted && (item.conditions.isEmpty || item.isCounted)

def questWaits (item : LootItem) : Bool := !item.freeforall && !item.isLooted

/-- The quest items that some player has in his list. -/
def Loot.listedQuest (loot : Loot) : List Nat :=
  (indices loot.playerQuestItems).flatMap (·.2)

/-- The entries of a map that stand for an own share and are not looted. -/
def sharesLeft (share : QuestItem → Bool) (map : QuestItemMap) : Nat :=
  (map.map fun x => x.2.countP fun entry => share entry && !entry.isLooted).sum

def Loot.questShare (loot : Loot) (entry : QuestItem) : Bool :=
  (loot.questItems[entry.index]?).any (·.freeforall)

def Loot.waitingQuest (loot : Loot) : Finset Nat :=
  loot.listedQuest.toFinset.filter fun j => (loot.questItems[j]?).any questWaits = true

/-- The grants that a loot still owes: each counted item that is not free for all once, each
item that is free for all once to every player who has it in a list. -/
def Loot.outstanding (loot : Loot) : Nat :=
  loot.items.countP plainWaits + loot.waitingQuest.card +
    sharesLeft (fun _ => true) loot.playerFFAItems +
    sharesLeft loot.questShare loot.playerQuestItems

/-- `std::map` keeps one list for a player. -/
structure OneListEach (loot : Loot) : Prop where
  quest : ((indices loot.playerQuestItems).map (·.1)).Nodup
  ffa : ((indices loot.playerFFAItems).map (·.1)).Nodup

theorem Loot.SameShape.oneListEach {before after : Loot} (same : before.SameShape after)
    (one : OneListEach before) : OneListEach after :=
  ⟨by rw [same.quest]; exact one.quest, by rw [same.ffa]; exact one.ffa⟩

theorem oneList_addList {map : QuestItemMap} {player : Nat} (fresh : List QuestItem)
    (unlisted : player ∉ (indices map).map (·.1)) (one : ((indices map).map (·.1)).Nodup) :
    ((indices (addList map player fresh)).map (·.1)).Nodup := by
  unfold addList
  split
  · exact one
  · exact nodup_cons.mpr ⟨unlisted, one⟩

theorem Listed.oneListEach {protos : Prototypes} {player : Player} {present : Bool}
    {before after : Loot} {quest ffa conditional : List QuestItem}
    (listed : Listed protos player present before quest ffa conditional after)
    (unlisted : player.guid ∉ before.listedPlayers) (one : OneListEach before) :
    OneListEach after := by
  simp only [Loot.listedPlayers, map_append, mem_append, not_or] at unlisted
  rw [listed.result]
  exact ⟨oneList_addList quest unlisted.1.1 one.quest, oneList_addList ffa unlisted.1.2 one.ffa⟩

variable {ql : List QuestItem}

variable (share : QuestItem → Bool)

theorem sharesLeft_setLooted {map : QuestItemMap} {player pos : Nat} {entry : QuestItem}
    (one : ((indices map).map (·.1)).Nodup)
    (own : map.lookup player = some ql) (position : ql[pos]? = some entry)
    (counts : share entry = true) (left : entry.isLooted = false) :
    sharesLeft share (Loot.setLooted map player pos) + 1 = sharesLeft share map := by
  induction map with
  | nil => cases own
  | cons x map ih =>
    have first : Loot.setLooted (x :: map) player pos =
        (if x.1 = player then (x.1, x.2.modify pos markLooted) else x) ::
          Loot.setLooted map player pos := rfl
    have names : (indices (x :: map)).map (·.1) = x.1 :: (indices map).map (·.1) := rfl
    rw [names, nodup_cons] at one
    rw [lookup_cons] at own
    rw [first]
    simp only [sharesLeft, map_cons, sum_cons]
    split at own
    · rename_i same
      obtain rfl := Option.some.inj own
      have less := Counting.countP_modify (fun entry => share entry && !entry.isLooted)
        markLooted pos entry position (by simp [counts, left]) (by simp [markLooted])
      have others : Loot.setLooted map player pos = map := by
        conv_rhs => rw [← map_id map]
        apply map_congr_left
        intro y later
        have apart : y.1 ≠ player := by
          intro equal
          rw [indices_fst] at one
          exact one.1 (mem_map.mpr ⟨y, later, equal.trans same⟩)
        rw [if_neg apart, id]
      rw [others, if_pos same.symm]
      dsimp only
      omega
    · rename_i apart
      have rest := ih one.2 own
      simp only [sharesLeft] at rest
      rw [if_neg (Ne.symm apart)]
      omega

theorem sharesLeft_setLooted_same {map : QuestItemMap} {player pos : Nat}
    {entry : QuestItem} (blind : ∀ entry, share (markLooted entry) = share entry)
    (own : map.lookup player = some ql) (position : ql[pos]? = some entry)
    (one : ((indices map).map (·.1)).Nodup) (none : share entry = false) :
    sharesLeft share (Loot.setLooted map player pos) = sharesLeft share map := by
  unfold sharesLeft Loot.setLooted
  rw [map_map]
  congr 1
  apply map_congr_left
  intro x mem
  simp only [Function.comp_apply]
  split
  · rename_i same
    apply Counting.countP_modify_same
    intro other there
    have pair := lookup_mem own
    have lists : x = (player, ql) := by
      rw [indices_fst] at one
      exact inj_on_of_nodup_map one mem pair same
    rw [lists] at there
    obtain rfl := Option.some.inj (position.symm.trans there)
    have kept := blind entry
    unfold markLooted at kept
    simp [kept, none]
  · rfl

def lootedItem (item : LootItem) : LootItem := { item with isLooted := true }

theorem items_take (loot : Loot) (player : Nat) (found : Found) :
    (loot.take player found).items =
      match found.source, found.item.freeforall with
      | .plain i, false => loot.items.modify i lootedItem
      | _, _ => loot.items := by
  unfold Loot.take Loot.modifyItem Loot.markEntry
  rcases found with ⟨_ | _, item, _ | ⟨_ | _ | _, pos⟩⟩ <;> cases item.freeforall <;> rfl

theorem questItems_take (loot : Loot) (player : Nat) (found : Found) :
    (loot.take player found).questItems =
      match found.source, found.item.freeforall with
      | .quest j, false => loot.questItems.modify j lootedItem
      | _, _ => loot.questItems := by
  unfold Loot.take Loot.modifyItem Loot.markEntry
  rcases found with ⟨_ | _, item, _ | ⟨_ | _ | _, pos⟩⟩ <;> cases item.freeforall <;> rfl

theorem unlootedCount_take (loot : Loot) (player : Nat) (found : Found) :
    (loot.take player found).unlootedCount = loot.unlootedCount - 1 := by
  unfold Loot.take Loot.modifyItem Loot.markEntry
  rcases found with ⟨_ | _, item, _ | ⟨_ | _ | _, pos⟩⟩ <;> cases item.freeforall <;> rfl

theorem questShare_congr {before after : Loot} (same : after.questItems = before.questItems) :
    after.questShare = before.questShare := by
  funext entry
  rw [Loot.questShare, Loot.questShare, same]

theorem listedQuest_of_indices {before after : Loot}
    (same : indices after.playerQuestItems = indices before.playerQuestItems) :
    after.listedQuest = before.listedQuest := by
  rw [Loot.listedQuest, Loot.listedQuest, same]

theorem questShare_modify (loot : Loot) (j : Nat) (f : LootItem → LootItem)
    (keeps : ∀ item, (f item).freeforall = item.freeforall) (entry : QuestItem) :
    ({ loot with questItems := loot.questItems.modify j f } : Loot).questShare entry =
      loot.questShare entry := by
  simp only [Loot.questShare, getElem?_modify]
  cases loot.questItems[entry.index]? with
  | none => rfl
  | some item =>
    by_cases same : j = entry.index
    · simp [same, keeps]
    · simp [same]

theorem waiting_modify {items : List LootItem} {listed : List Nat} (f : LootItem → LootItem)
    {j : Nat} {item : LootItem} (here : items[j]? = some item) (mem : j ∈ listed)
    (was : questWaits item = true) (gone : questWaits (f item) = false) :
    ((listed.toFinset.filter fun k => ((items.modify j f)[k]?).any questWaits = true).card) + 1 =
      (listed.toFinset.filter fun k => (items[k]?).any questWaits = true).card := by
  have rest : (listed.toFinset.filter fun k => ((items.modify j f)[k]?).any questWaits = true) =
      (listed.toFinset.filter fun k => (items[k]?).any questWaits = true).erase j := by
    ext k
    simp only [Finset.mem_filter, Finset.mem_erase, getElem?_modify]
    by_cases same : j = k
    · subst same
      simp [here, gone]
    have apart : k ≠ j := fun equal => same equal.symm
    have kept : (fun a => if j = k then f a else a) = id := by
      funext a
      rw [if_neg same, id]
    rw [kept]
    simp [apart]
  rw [rest]
  apply Finset.card_erase_add_one
  simp [mem, here, was]

/-- The grant was counted: an own share, or an item that is not free for all, counted and still
there. -/
def CountedFound (found : Found) : Prop :=
  (found.item.freeforall = true → found.entry.isSome = true) ∧
    (found.item.freeforall = false →
      match found.source with
      | .plain _ => plainWaits found.item = true
      | .quest _ => found.item.isLooted = false)

variable {loot : Loot}

theorem mem_listedQuest {player : Nat} {entry : QuestItem}
    (own : loot.playerQuestItems.lookup player = some ql) (mem : entry ∈ ql) :
    entry.index ∈ loot.listedQuest :=
  mem_flatMap.mpr ⟨(player, ql.map QuestItem.index),
    mem_map.mpr ⟨(player, ql), lookup_mem own, rfl⟩, mem_map_of_mem mem⟩

theorem outstanding_take {player lootSlot : Nat} {found : Found} (one : OneListEach loot)
    (by_ : loot.FoundBy lootSlot player found) (counted : CountedFound found) :
    (loot.take player found).outstanding + 1 = loot.outstanding := by
  have quest := playerQuestItems_take loot player found
  have ffa := playerFFAItems_take loot player found
  have items := items_take loot player found
  have questItems := questItems_take loot player found
  have listed := listedQuest_of_indices (Loot.sameShape_take loot player found).quest
  unfold Loot.outstanding Loot.waitingQuest
  rw [listed]
  cases by_ with
  | quest ql entry item past own position here left =>
    dsimp only at quest ffa items questItems counted
    cases shared : item.freeforall with
    | true =>
      simp only [shared] at items questItems
      have share : loot.questShare entry = true := by simp [Loot.questShare, here, shared]
      have less := sharesLeft_setLooted _ one.quest own position share left
      rw [items, questShare_congr questItems, questItems, ffa, quest]
      omega
    | false =>
      simp only [shared] at items questItems
      have unshared : loot.questShare entry = false := by simp [Loot.questShare, here, shared]
      have kept := sharesLeft_setLooted_same loot.questShare (fun _ => rfl) own
        position one.quest unshared
      have same : (loot.take player ⟨.quest entry.index, item,
          some (.quest, lootSlot - loot.items.length)⟩).questShare = loot.questShare := by
        funext other
        have modified := questShare_modify loot entry.index lootedItem (fun _ => rfl) other
        rw [← modified, Loot.questShare, Loot.questShare, questItems]
      have unlooted : item.isLooted = false := counted.2 shared
      have less := waiting_modify lootedItem
        here (mem_listedQuest own (mem_of_getElem? position))
        (by simp [questWaits, shared, unlooted]) (by simp [questWaits, lootedItem])
      rw [items, questItems, ffa, quest, same, kept]
      omega
  | ffa ql entry pos item here shared own position same left =>
    dsimp only at quest ffa items questItems counted
    simp only [shared] at items questItems
    have less := sharesLeft_setLooted (fun _ => true) one.ffa own position rfl left
    rw [items, questShare_congr questItems, questItems, ffa, quest]
    omega
  | conditional ql entry pos item here single =>
    dsimp only at quest ffa items questItems counted
    simp only [single] at items questItems
    have less := Counting.countP_modify plainWaits lootedItem lootSlot item here
      (counted.2 single) (by simp [plainWaits, lootedItem])
    rw [items, questShare_congr questItems, questItems, ffa, quest]
    omega
  | unlisted item here =>
    dsimp only at quest ffa items questItems counted
    have single : item.freeforall = false := by
      by_contra shared
      exact absurd (counted.1 (by simpa using shared)) (by simp)
    simp only [single] at items questItems
    have less := Counting.countP_modify plainWaits lootedItem lootSlot item here
      (counted.2 single) (by simp [plainWaits, lootedItem])
    rw [items, questShare_congr questItems, questItems, ffa, quest]
    omega

/-- The counter is the number of outstanding grants, as far as eight bits show it. -/
def Counts (loot : Loot) : Prop := loot.unlootedCount = UInt8.ofNat loot.outstanding

theorem counts_less {before after : Loot} (counts : Counts before)
    (less : after.outstanding + 1 = before.outstanding)
    (counter : after.unlootedCount = before.unlootedCount - 1) : Counts after := by
  unfold Counts at counts ⊢
  rw [counter, counts, ← less, UInt8.ofNat_add]
  exact UInt8.add_sub_cancel _ _

/-- What the master looter gives away was counted once and is still there. -/
def CountedGiven (loot : Loot) (source : Source) (item : LootItem) : Prop :=
  item.freeforall = false ∧
    match source with
    | .plain _ => plainWaits item = true
    | .quest j => item.isLooted = false ∧ j ∈ loot.listedQuest

def CountedTake (protos : Prototypes) (loot : Loot) : Request → Prop
  | .storeLootItem player lootSlot canStore =>
    ∀ found, loot.storesLoot player lootSlot canStore found → CountedFound found
  | .lootMasterGive ready slotid target canStore =>
    ∀ source item, loot.givesLoot protos ready slotid target canStore source item →
      CountedGiven loot source item
  | .lootMoney => True

theorem outstanding_given {source : Source} {item : LootItem}
    (here : loot.item? source = some item) (counted : CountedGiven loot source item) :
    (loot.given source).outstanding + 1 = loot.outstanding := by
  obtain ⟨single, waits⟩ := counted
  cases source with
  | plain i =>
    have less := Counting.countP_modify plainWaits giveItem i item here waits
      (by simp [plainWaits, giveItem])
    change (loot.items.modify i giveItem).countP plainWaits + loot.waitingQuest.card +
      sharesLeft (fun _ => true) loot.playerFFAItems +
      sharesLeft loot.questShare loot.playerQuestItems + 1 = loot.outstanding
    unfold Loot.outstanding
    omega
  | quest j =>
    have less := waiting_modify giveItem here waits.2
      (by simp [questWaits, single, waits.1]) (by simp [questWaits, giveItem])
    have same : (loot.given (.quest j)).questShare = loot.questShare := by
      funext entry
      exact questShare_modify loot j giveItem (fun _ => rfl) entry
    change loot.items.countP plainWaits + _ +
      sharesLeft (fun _ => true) loot.playerFFAItems +
      sharesLeft (loot.given (.quest j)).questShare loot.playerQuestItems + 1 = loot.outstanding
    rw [same]
    unfold Loot.outstanding Loot.waitingQuest
    change loot.items.countP plainWaits + (loot.listedQuest.toFinset.filter fun k =>
      ((loot.questItems.modify j giveItem)[k]?).any questWaits = true).card +
      sharesLeft (fun _ => true) loot.playerFFAItems +
      sharesLeft loot.questShare loot.playerQuestItems + 1 = _
    omega

theorem counts_step {protos : Prototypes} {request : Request}
    (counts : Counts loot) (one : OneListEach loot) (counted : CountedTake protos loot request) :
    Counts (step protos loot request).1 ∧
      (step protos loot request).1.outstanding ≤ loot.outstanding := by
  have steps := step_steps protos loot request
  generalize step protos loot request = next at steps
  cases steps with
  | refused => exact ⟨counts, Nat.le_refl _⟩
  | stored player lootSlot canStore found stores =>
    have less := outstanding_take one (Loot.lootItemInSlot_found stores.1) (counted found stores)
    exact ⟨counts_less counts less (unlootedCount_take loot player found), by dsimp only; omega⟩
  | given ready slotid target canStore source item gives =>
    have less := outstanding_given (Loot.masterItem_here gives.1) (counted source item gives)
    refine ⟨counts_less counts less ?_, by dsimp only; omega⟩
    cases source <;> rfl
  | money => exact ⟨counts, Nat.le_refl _⟩

def questList (protos : Prototypes) (turn : Loot × Player) : List QuestItem :=
  ((Loot.fillQuestLoot protos turn.1 turn.2).playerQuestItems.lookup turn.2.guid).getD []

/-- How often a looter's turn raises the counter. -/
def raised (protos : Prototypes) (turn : Loot × Player) : Nat :=
  (questList protos turn).countP (countsEntry turn.1.questItems) +
    turn.1.items.countP (Loot.listedFFA protos turn.2) +
    turn.1.items.countP fun item =>
      Loot.listedConditional protos turn.2 item && !item.isCounted

/-- In a looter's turn no quest item that is not free for all is counted again, and the counter
has room for what is counted. -/
structure TurnCounts (protos : Prototypes) (turn : Loot × Player) : Prop where
  once : ∀ entry ∈ questList protos turn, ∀ item, turn.1.questItems[entry.index]? = some item →
    item.freeforall = false → entry.index ∈ turn.1.listedQuest → item.isBlocked = true
  fits : turn.1.outstanding + raised protos turn ≤ 255

/-- Only listed quest items get blocked during the filling. -/
def BlockedListed (loot : Loot) : Prop :=
  ∀ j item, loot.questItems[j]? = some item → item.isBlocked = true → j ∈ loot.listedQuest

section

variable {protos : Prototypes} {player : Player} {present : Bool} {before after : Loot}
  {quest ffa conditional : List QuestItem}

section
variable (listed : Listed protos player present before quest ffa conditional after)
include listed

theorem Listed.questList
    (unlisted : player.guid ∉ before.listedPlayers) :
    questList protos (before, player) = quest := by
  simp only [Loot.listedPlayers, map_append, mem_append, not_or] at unlisted
  rw [Looting.questList, listed.questMap]
  cases own : (addList before.playerQuestItems player.guid quest).lookup player.guid with
  | some ql => exact lookup_addList unlisted.1.1 own
  | none =>
    cases quest with
    | nil => rfl
    | cons entry quest =>
      rw [addList, isEmpty_cons, if_neg (by decide), lookup_cons, if_pos rfl] at own
      cases own

theorem Listed.plainCount :
    after.items.countP plainWaits = before.items.countP plainWaits +
      before.items.countP fun item =>
        Loot.listedConditional protos player item && !item.isCounted := by
  rw [listed.result]
  rw [countP_map]
  apply Counting.countP_split
  intro item _
  obtain ⟨guids, marked⟩ := markConditional_eq protos player present item
  simp only [Function.comp_apply, marked, plainWaits, Loot.listedConditional, Loot.openTo]
  cases item.isCounted <;> cases item.conditions.isEmpty <;> cases item.freeforall <;>
    cases item.isLooted <;>
    cases item.allowedForPlayer protos player || item.listedByGroup player <;> rfl

theorem Listed.mem_listedQuest (j : Nat) :
    j ∈ after.listedQuest ↔ j ∈ quest.map QuestItem.index ∨ j ∈ before.listedQuest := by
  rw [listed.result]
  unfold Loot.listedQuest addList
  split
  · rename_i empty
    rw [isEmpty_iff.mp empty]
    simp
  · simp [indices]

end

theorem blockListed_questWaits (player : Player) (fresh : List QuestItem) (j : Nat)
    (item : LootItem) : questWaits (blockListed player fresh j item) = questWaits item := by
  unfold blockListed
  split <;> rfl

section
variable (listed : Listed protos player present before quest ffa conditional after)
include listed

theorem Listed.any_questWaits (j : Nat) :
    (after.questItems[j]?).any questWaits = (before.questItems[j]?).any questWaits := by
  rw [listed.result]
  simp only [getElem?_mapIdx]
  cases before.questItems[j]? with
  | none => rfl
  | some item => exact blockListed_questWaits player quest j item

theorem Listed.questShare_eq :
    after.questShare = before.questShare := by
  funext entry
  unfold Loot.questShare
  rw [listed.result]
  simp only [getElem?_mapIdx]
  cases before.questItems[entry.index]? with
  | none => rfl
  | some item =>
    exact LootItem.freeforall_of_fixed (blockListed_fixed player quest entry.index item)

theorem Listed.waitingCount :
    after.waitingQuest.card = before.waitingQuest.card +
      quest.countP fun entry => (before.questItems[entry.index]?).any questWaits &&
        decide (entry.index ∉ before.listedQuest) := by
  have fresh := Counting.card_filter_toFinset
    (fun j => (before.questItems[j]?).any questWaits && decide (j ∉ before.listedQuest))
    listed.questListing.nodup
  rw [countP_map] at fresh
  have parts : after.waitingQuest = before.waitingQuest ∪
      (quest.map QuestItem.index).toFinset.filter fun j =>
        ((before.questItems[j]?).any questWaits && decide (j ∉ before.listedQuest)) = true := by
    ext j
    simp only [Loot.waitingQuest, Finset.mem_filter, Finset.mem_union, mem_toFinset,
      listed.mem_listedQuest, listed.any_questWaits, Bool.and_eq_true, decide_eq_true_eq]
    by_cases known : j ∈ before.listedQuest
    · simp [known]
    · simp [known]
  rw [parts, Finset.card_union_of_disjoint]
  · rw [fresh]
    rfl
  · rw [Finset.disjoint_left]
    intro j waiting new
    simp only [Loot.waitingQuest, Finset.mem_filter, mem_toFinset, Bool.and_eq_true,
      decide_eq_true_eq] at waiting new
    exact new.2.2 waiting.1

end

theorem sharesLeft_addList (map : QuestItemMap) (player : Nat)
    {fresh : List QuestItem} (unlooted : ∀ entry ∈ fresh, entry.isLooted = false) :
    sharesLeft share (addList map player fresh) = sharesLeft share map + fresh.countP share := by
  have same : fresh.countP (fun entry => share entry && !entry.isLooted) = fresh.countP share := by
    apply countP_congr
    intro entry mem
    simp [unlooted entry mem]
  unfold addList
  split
  · rename_i empty
    rw [isEmpty_iff.mp empty]
    rfl
  · simp only [sharesLeft, map_cons, sum_cons]
    rw [same, Nat.add_comm]

section
variable (listed : Listed protos player present before quest ffa conditional after)
include listed

theorem Listed.questCount
    (blocked : BlockedListed before)
    (once : ∀ entry ∈ quest, ∀ item, before.questItems[entry.index]? = some item →
      item.freeforall = false → entry.index ∈ before.listedQuest → item.isBlocked = true) :
    quest.countP (countsEntry before.questItems) =
      (quest.countP fun entry => (before.questItems[entry.index]?).any questWaits &&
        decide (entry.index ∉ before.listedQuest)) + quest.countP before.questShare := by
  apply Counting.countP_split
  intro entry mem
  obtain ⟨item, here, left, _⟩ := listed.questListing.passes entry mem
  simp only [countsEntry, Loot.questShare, here, Option.any_some, questWaits, left]
  cases shared : item.freeforall with
  | true => rfl
  | false =>
    by_cases known : entry.index ∈ before.listedQuest
    · simp [known, once entry mem item here shared known]
    have unblocked : item.isBlocked = false := by
      by_contra other
      exact known (blocked entry.index item here (by simpa using other))
    simp [known, unblocked]

theorem Listed.outstanding
    (unlisted : player.guid ∉ before.listedPlayers) (blocked : BlockedListed before)
    (once : ∀ entry ∈ quest, ∀ item, before.questItems[entry.index]? = some item →
      item.freeforall = false → entry.index ∈ before.listedQuest → item.isBlocked = true) :
    after.outstanding = before.outstanding + raised protos (before, player) := by
  have plain := listed.plainCount
  have waiting := listed.waitingCount
  have counted := listed.questCount blocked once
  have shares : sharesLeft after.questShare after.playerQuestItems =
      sharesLeft before.questShare before.playerQuestItems + quest.countP before.questShare := by
    rw [listed.questShare_eq]
    rw [listed.result]
    exact sharesLeft_addList _ _ _ listed.questListing.unlooted
  have ffaShares : sharesLeft (fun _ => true) after.playerFFAItems =
      sharesLeft (fun _ => true) before.playerFFAItems + ffa.length := by
    rw [listed.result]
    have added := sharesLeft_addList (fun _ => true) before.playerFFAItems player.guid
      listed.ffaListing.unlooted
    rw [countP_true] at added
    exact added
  have length := listed.ffaLength
  unfold Loot.outstanding raised
  rw [listed.questList unlisted]
  dsimp only
  omega

theorem Listed.counts
    (unlisted : player.guid ∉ before.listedPlayers) (blocked : BlockedListed before)
    (counts : Counts before)
    (once : ∀ entry ∈ quest, ∀ item, before.questItems[entry.index]? = some item →
      item.freeforall = false → entry.index ∈ before.listedQuest → item.isBlocked = true) :
    Counts after := by
  have more := listed.outstanding unlisted blocked once
  unfold Counts at counts ⊢
  rw [more, raised, listed.questList unlisted]
  rw [listed.result]
  simp only [UInt8.ofNat_add, counts, listed.ffaLength, UInt8.add_assoc]

theorem Listed.blockedListed
    (blocked : BlockedListed before) : BlockedListed after := by
  intro j item here isBlocked
  rw [listed.mem_listedQuest]
  rw [listed.result] at here
  simp only [getElem?_mapIdx] at here
  obtain ⟨was, there, rfl⟩ := Option.map_eq_some_iff.mp here
  unfold blockListed at isBlocked
  split at isBlocked
  · rename_i both
    exact .inl both.2
  · exact .inr (blocked j was there isBlocked)

end

end

/-- Between two turns: the counter is exact and shows the whole number. -/
structure Exact (loot : Loot) : Prop where
  counts : Counts loot
  one : OneListEach loot
  blocked : BlockedListed loot
  fits : loot.outstanding ≤ 255

/-- Inside a player's turn: what he may take is his own. -/
structure ExactTurn (protos : Prototypes) (player : Player) (loot : Loot) : Prop
    extends Exact loot where
  own : OwnUnlooted player.guid loot
  shares : ∀ i item, loot.items[i]? = some item → Loot.listedFFA protos player item = true →
    ∃ ql, loot.playerFFAItems.lookup player.guid = some ql ∧ i ∈ ql.map QuestItem.index

theorem ExactTurn.countedFound {protos : Prototypes} {player : Player} {slot : Nat} {found : Found}
    (turn : ExactTurn protos player loot) (checked : Fill.CurrencySlot protos player loot slot)
    (by_ : loot.FoundBy slot player.guid found) : CountedFound found := by
  have first := turn.own.first by_
  have plain (item : LootItem) (here : loot.items[slot]? = some item) :
      Loot.listedFFA protos player item = true := by
    obtain ⟨other, there, passed⟩ := checked (List.getElem?_eq_some_iff.mp here).1
    obtain rfl := Option.some.inj (here.symm.trans there)
    exact passed
  have shared (item : LootItem) (here : loot.items[slot]? = some item) :
      item.freeforall = true := by
    have passed := plain item here
    simp only [Loot.listedFFA, Bool.and_eq_true] at passed
    exact passed.1.2
  cases by_ with
  | quest => exact ⟨fun _ => rfl, fun single => first single⟩
  | ffa _ _ _ item here share =>
    exact ⟨fun _ => rfl, fun single => absurd (share.symm.trans single) (by decide)⟩
  | conditional _ _ _ item here single =>
    exact absurd ((shared item here).symm.trans single) (by decide)
  | unlisted item here _ ffa _ =>
    obtain ⟨ql, own, mem⟩ := turn.shares slot item here (plain item here)
    obtain ⟨entry, inList, index⟩ := mem_map.mp mem
    exact absurd index (findEntry_none own (ffa (shared item here)) entry inList)

theorem blockedListed_take (blocked : BlockedListed loot) (player : Nat)
    (found : Found) : BlockedListed (loot.take player found) := by
  intro j item here isBlocked
  rw [listedQuest_of_indices (Loot.sameShape_take loot player found).quest]
  have at_ : (loot.take player found).item? (.quest j) = some item := here
  rw [Loot.item?_take] at at_
  split at at_
  · obtain ⟨was, there, rfl⟩ := Option.map_eq_some_iff.mp at_
    exact blocked j was there isBlocked
  · exact blocked j item at_ isBlocked

theorem ExactTurn.take {protos : Prototypes} {player : Player} {slot : Nat}
    {found : Found} (turn : ExactTurn protos player loot) (formed : loot.WellFormed)
    (checked : Fill.CurrencySlot protos player loot slot)
    (by_ : loot.FoundBy slot player.guid found) :
    ExactTurn protos player (loot.take player.guid found) := by
  have less := outstanding_take turn.one by_ (turn.countedFound checked by_)
  have shape := Loot.sameShape_take loot player.guid found
  have fits := turn.fits
  refine ⟨⟨counts_less turn.counts less (unlootedCount_take loot player.guid found),
    shape.oneListEach turn.one, blockedListed_take turn.blocked player.guid found, by omega⟩,
    turn.own.take formed by_, ?_⟩
  intro i item here passed
  have at_ : (loot.take player.guid found).item? (.plain i) = some item := here
  rw [Loot.item?_take] at at_
  split at at_
  · obtain ⟨was, _, rfl⟩ := Option.map_eq_some_iff.mp at_
    simp [Loot.listedFFA] at passed
  obtain ⟨ql, own, mem⟩ := turn.shares i item at_ passed
  have positions := shape.ownList (.plain i) player.guid
  simp only [Loot.ownList, own, Option.map_some] at positions
  obtain ⟨now, nowOwn, same⟩ := Option.map_eq_some_iff.mp positions
  exact ⟨now, nowOwn, by rw [same]; exact mem⟩

theorem Listed.exactTurn {protos : Prototypes} {player : Player} {present : Bool}
    {before after : Loot} {quest ffa conditional : List QuestItem}
    (listed : Listed protos player present before quest ffa conditional after)
    (unlisted : player.guid ∉ before.listedPlayers) (exact_ : Exact before)
    (turn : TurnCounts protos (before, player)) : ExactTurn protos player after := by
  have once := turn.once
  rw [listed.questList unlisted] at once
  have more := listed.outstanding unlisted exact_.blocked once
  refine ⟨⟨listed.counts unlisted exact_.blocked exact_.counts once,
    listed.oneListEach unlisted exact_.one, listed.blockedListed exact_.blocked, ?_⟩,
    listed.ownUnlooted unlisted, ?_⟩
  · rw [more]
    exact turn.fits
  · intro i item here passed
    rw [listed.result] at here ⊢
    simp only [getElem?_map] at here
    obtain ⟨was, there, rfl⟩ := Option.map_eq_some_iff.mp here
    obtain ⟨guids, marked⟩ := markConditional_eq protos player present was
    have wasListed : Loot.listedFFA protos player was = true := by
      have fixed := markConditional_fixed protos player present was
      rw [← passed]
      unfold Loot.listedFFA
      rw [LootItem.allowedForPlayer_of_fixed fixed, marked]
    have mem := listed.ffaListed i was there wasListed
    have some : ffa.isEmpty = false := by
      cases ffa with
      | nil => cases mem
      | cons => rfl
    refine ⟨ffa, ?_, mem⟩
    simp [addList, some]

theorem Loot.Fresh.exact (fresh : loot.Fresh) : Exact loot := by
  have waiting : loot.waitingQuest = ∅ := by
    simp [Loot.waitingQuest, Loot.listedQuest, fresh.quest, indices]
  have plain : loot.items.countP plainWaits = loot.items.countP countedAtOnce := by
    apply countP_congr
    intro item mem
    obtain ⟨left, uncounted⟩ := fresh.items item mem
    simp [plainWaits, countedAtOnce, left, uncounted, and_comm]
  have all : loot.outstanding = loot.items.countP countedAtOnce := by
    simp [Loot.outstanding, waiting, plain, fresh.ffa, fresh.quest, sharesLeft]
  refine ⟨?_, ⟨by simp [fresh.quest, indices], by simp [fresh.ffa, indices]⟩, ?_, ?_⟩
  · rw [Counts, all]
    exact fresh.counted
  · intro j item here isBlocked
    have unblocked := (fresh.questItems item (mem_of_getElem? here)).2
    rw [unblocked] at isBlocked
    cases isBlocked
  · have few := fresh.few
    have counted := countP_le_length (p := countedAtOnce) (l := loot.items)
    rw [all]
    simp only [maxNrLootItems] at few
    omega

theorem exact_fillLoot {fill : Fill} {gold : Nat}
    (filling : ∀ turn ∈ fill.turns gold, TurnCounts fill.protos turn) :
    Exact (fill.fillLoot gold).1 := by
  apply Fill.fillLoot_rule (P := fun filled => Exact filled.1)
    (Q := fun player now => ExactTurn fill.protos player now.1) fill gold
  · exact fun loot fresh => fresh.exact
  · exact fun filled looter exact_ _ _ turn unlisted quest ffa conditional after listed =>
      listed.exactTurn unlisted exact_ (filling _ turn)
  · intro now player slot fits turn formed checked
    rcases now.1.storeLootItem_cases player.guid slot fits with same | ⟨found, stores, result⟩
    · rw [same]
      exact turn
    · rw [result]
      exact turn.take formed checked (Loot.lootItemInSlot_found stores.1)
  · exact fun _ _ turn => turn.toExact
  · intro threshold now exact_
    have plain : (now.1.items.map fun item =>
        if (fill.protos item.itemid).any fun proto => proto.quality < threshold then
          { item with isUnderthreshold := true }
        else item).countP plainWaits = now.1.items.countP plainWaits := by
      rw [countP_map]
      apply countP_congr
      intro item _
      simp only [Function.comp_apply]
      split <;> rfl
    have same : (Loot.markUnderthreshold fill.protos threshold now.1).outstanding =
        now.1.outstanding := by
      change _ + now.1.waitingQuest.card + sharesLeft (fun _ => true) now.1.playerFFAItems +
        sharesLeft now.1.questShare now.1.playerQuestItems = _
      rw [Loot.markUnderthreshold, plain]
      rfl
    refine ⟨?_, ⟨exact_.one.quest, exact_.one.ffa⟩, exact_.blocked, ?_⟩
    · unfold Counts
      rw [same]
      exact exact_.counts
    · rw [same]
      exact exact_.fits

/-- The counter is exact after the filling and after every request, in every run whose turns
count each grant once, within eight bits, and whose requests take only grants that are
outstanding. -/
theorem unlootedCount_exact (fill : Fill) (gold : Nat) (requests : List Request)
    (filling : ∀ turn ∈ fill.turns gold, TurnCounts fill.protos turn)
    (taking : ∀ t ∈ Run.trace (step fill.protos) (fill.fillLoot gold).1 requests,
      CountedTake fill.protos t.before t.input) :
    let loot := Run.final (step fill.protos) (fill.fillLoot gold).1 requests
    loot.unlootedCount.toNat = loot.outstanding ∧
      (loot.isLooted = true ↔ loot.gold = 0 ∧ loot.outstanding = 0) := by
  have run := Run.history (step fill.protos) (CountedTake fill.protos)
    (fun _ loot => (fill.fillLoot gold).1.SameShape loot ∧ Counts loot ∧ loot.outstanding ≤ 255)
    (fun _ loot request holds takes => by
      have shape := holds.1.trans (sameShape_step fill.protos loot request)
      have one := holds.1.oneListEach (exact_fillLoot filling).one
      obtain ⟨counts, less⟩ := counts_step holds.2.1 one takes
      exact ⟨shape, counts, Nat.le_trans less holds.2.2⟩)
    [] (fill.fillLoot gold).1 requests
    ⟨Loot.SameShape.refl _, (exact_fillLoot filling).counts, (exact_fillLoot filling).fits⟩ taking
  intro loot
  obtain ⟨_, counts, fits⟩ := run
  have exact_ : loot.unlootedCount.toNat = loot.outstanding := by
    rw [counts, UInt8.toNat_ofNat', Nat.mod_eq_of_lt (by omega)]
  refine ⟨exact_, ?_⟩
  have zero : loot.unlootedCount = 0 ↔ loot.outstanding = 0 := by
    rw [← exact_, ← UInt8.toNat_inj]
    rfl
  rw [Loot.isLooted, decide_eq_true_eq, zero]

/-- A looter without a group takes the only quest item. -/
def lonelyQuestFill : Fill where
  protos := fun _ => some plainPrototype
  rolled := [questDrop 11]
  lootOwner := questPlayer 1 none [11]
  group := none
  canStore := fun _ _ => true

theorem unlootedCount_exact_lonely :
    (Run.final (step lonelyQuestFill.protos) (lonelyQuestFill.fillLoot 5).1
      [.storeLootItem 1 0 true, .lootMoney]).isLooted = true := by
  have done := (unlootedCount_exact lonelyQuestFill 5 [.storeLootItem 1 0 true, .lootMoney]
    (by
      intro turn mem
      obtain rfl := mem_singleton.mp mem
      have none : (lonelyQuestFill.prepared 5).listedQuest = [] := by
        simp [Loot.listedQuest, indices, (lonelyQuestFill.prepared_fresh 5).quest]
      refine ⟨fun entry _ item _ _ listed => ?_, by decide⟩
      change entry.index ∈ (lonelyQuestFill.prepared 5).listedQuest at listed
      rw [none] at listed
      simp at listed)
    (by
      intro t mem
      rcases mem_cons.mp mem with rfl | mem
      · intro found stores
        have slot : (lonelyQuestFill.fillLoot 5).1.lootItemInSlot 0 1 =
            some ⟨.quest 0, { sharedQuestItem with isBlocked := true }, some (.quest, 0)⟩ := rfl
        obtain rfl := Option.some.inj (slot.symm.trans stores.1)
        exact ⟨fun _ => rfl, fun _ => rfl⟩
      · obtain rfl := mem_singleton.mp mem
        trivial)).2
  exact done.mpr ⟨rfl, by decide⟩

/-- Under group loot the quest item is counted for each of the two members who have the quest,
though only one of them is to get it. -/
theorem unlootedCount_not_exact :
    ¬ ∀ (fill : Fill) (gold : Nat) (requests : List Request),
      let loot := Run.final (step fill.protos) (fill.fillLoot gold).1 requests
      loot.unlootedCount.toNat = loot.outstanding := by
  intro exact_
  have counted : (sharedQuestFill.fillLoot 0).1.unlootedCount.toNat = 2 := by decide
  have waiting : (sharedQuestFill.fillLoot 0).1.outstanding = 1 := by decide
  have same := exact_ sharedQuestFill 0 []
  rw [Run.final] at same
  omega

end OpenWoW.Looting
