import OpenWoW.LootGrants

/-! Items that are free for all: each player's own list says whether he had his share. -/
namespace OpenWoW.Looting

open List Option

def Source.index : Source → Nat
  | .plain i => i
  | .quest j => j

def Loot.ownList (loot : Loot) (source : Source) (player : Nat) : Option (List QuestItem) :=
  match source with
  | .plain _ => loot.playerFFAItems.lookup player
  | .quest _ => loot.playerQuestItems.lookup player

def isStored (player : Nat) (source : Source) : Event → Bool
  | .stored receiver element _ _ => receiver = player ∧ element = source
  | .given _ _ _ => false

def isListed : Event → Bool
  | .stored _ _ listed _ => listed
  | .given _ _ _ => false

/-- How often `StoreLootItem` stored an element for a player. -/
def stores (player : Nat) (source : Source) (events : List Event) : Nat :=
  events.countP (isStored player source)

/-- How often it did so for an entry of the player's own lists. -/
def listedStores (player : Nat) (source : Source) (events : List Event) : Nat :=
  events.countP fun event => isStored player source event && isListed event

theorem listedStores_append (player : Nat) (source : Source) (past events : List Event) :
    listedStores player source (past ++ events) =
      listedStores player source past + listedStores player source events :=
  countP_append

theorem listedStores_given (player : Nat) (source : Source) (target : Nat) (element : Source)
    (item : LootItem) : listedStores player source (givenEvents target element item) = 0 := by
  unfold givenEvents
  split <;> simp [listedStores, isStored]

theorem listedStores_stored (player other : Nat) (source : Source) (found : Found) :
    listedStores player source (storedEvents other found) ≤
      if other = player ∧ found.source = source ∧ found.entry.isSome then 1 else 0 := by
  unfold storedEvents
  split
  · exact Nat.zero_le _
  by_cases same : other = player ∧ found.source = source ∧ found.entry.isSome
  · rw [if_pos same]
    exact countP_le_length
  rw [if_neg same]
  have none : ¬ (isStored player source
      (.stored other found.source found.entry.isSome found.item.count) &&
        isListed (.stored other found.source found.entry.isSome found.item.count)) = true := by
    intro both
    simp only [isStored, isListed, Bool.and_eq_true, decide_eq_true_eq] at both
    exact same ⟨both.1.1, both.1.2, both.2⟩
  simp [listedStores, none]

/-- A player's list names the element and has it marked. -/
def OwnMarked (loot : Loot) (source : Source) (player : Nat) : Prop :=
  ∃ ql, loot.ownList source player = some ql ∧
    ∃ entry ∈ ql, entry.index = source.index ∧ entry.isLooted = true

/-- A share that was taken through an own entry was the only one, and the entry says so. -/
def SharesOnce (events : List Event) (loot : Loot) : Prop :=
  ∀ player source item, loot.item? source = some item → item.freeforall = true →
    listedStores player source events ≤ 1 ∧
      (1 ≤ listedStores player source events → OwnMarked loot source player)

variable {player : Nat}

theorem ownMarked_setLooted {map : QuestItemMap} {pos other index : Nat}
    {ql : List QuestItem} (own : map.lookup other = some ql)
    (marked : ∃ entry ∈ ql, entry.index = index ∧ entry.isLooted = true) :
    ∃ now, (Loot.setLooted map player pos).lookup other = some now ∧
      ∃ entry ∈ now, entry.index = index ∧ entry.isLooted = true := by
  obtain ⟨entry, mem, same, looted⟩ := marked
  rw [lookup_setLooted, own]
  by_cases here : other = player
  · exact ⟨ql.modify pos markLooted, by simp [here],
      entry, looted_mem_modify pos mem looted, same, looted⟩
  · exact ⟨ql, by simp [here], entry, mem, same, looted⟩

variable {loot : Loot}

theorem OwnMarked.take {source : Source}
    (marked : OwnMarked loot source player) (other : Nat) (found : Found) :
    OwnMarked (loot.take other found) source player := by
  obtain ⟨ql, own, entry⟩ := marked
  cases source with
  | plain i =>
    change ∃ now, (loot.take other found).playerFFAItems.lookup player = some now ∧ _
    rw [playerFFAItems_take]
    split
    · exact ownMarked_setLooted own entry
    · exact ⟨ql, own, entry⟩
  | quest j =>
    change ∃ now, (loot.take other found).playerQuestItems.lookup player = some now ∧ _
    rw [playerQuestItems_take]
    split
    · exact ownMarked_setLooted own entry
    · exact ⟨ql, own, entry⟩

theorem marked_setLooted {map : QuestItemMap} {pos : Nat} {ql : List QuestItem}
    {entry : QuestItem} (own : map.lookup player = some ql) (position : ql[pos]? = some entry) :
    ∃ now, (Loot.setLooted map player pos).lookup player = some now ∧
      ∃ marked ∈ now, marked.index = entry.index ∧ marked.isLooted = true := by
  rw [lookup_setLooted, own]
  exact ⟨ql.modify pos markLooted, by simp, markLooted entry, marked_mem_modify position, rfl, rfl⟩

theorem ownMarked_taken {lootSlot : Nat} {found : Found}
    (formed : loot.WellFormed) (by_ : loot.FoundBy lootSlot player found)
    (shared : found.item.freeforall = true) (listed : found.entry.isSome = true) :
    ¬ OwnMarked loot found.source player ∧
      OwnMarked (loot.take player found) found.source player := by
  cases by_ with
  | quest ql entry item past own position here left =>
    have unique := nodup_of_lookup (fun x mem => (formed.quest x mem).1) own
    constructor
    · rintro ⟨other, otherOwn, marked, mem, same, looted⟩
      obtain rfl := some.inj (own.symm.trans otherOwn)
      have equal := inj_on_of_nodup_map unique mem (mem_of_getElem? position) same
      rw [equal, left] at looted
      cases looted
    · change ∃ now, (loot.take player _).playerQuestItems.lookup player = some now ∧ _
      rw [playerQuestItems_take]
      exact marked_setLooted own position
  | ffa ql entry pos item here shared own position same left =>
    subst same
    have unique := nodup_of_lookup (fun x mem => (formed.ffa x mem).1) own
    constructor
    · rintro ⟨other, otherOwn, marked, mem, same, looted⟩
      obtain rfl := some.inj (own.symm.trans otherOwn)
      have equal := inj_on_of_nodup_map unique mem (mem_of_getElem? position) same
      rw [equal, left] at looted
      cases looted
    · change ∃ now, (loot.take player _).playerFFAItems.lookup player = some now ∧ _
      rw [playerFFAItems_take]
      exact marked_setLooted own position
  | conditional _ _ _ item _ single =>
    rw [single] at shared
    cases shared
  | unlisted => cases listed

theorem sharesOnce_take {past : List Event} {lootSlot : Nat} {found : Found}
    (once : SharesOnce past loot) (formed : loot.WellFormed)
    (by_ : loot.FoundBy lootSlot player found) :
    SharesOnce (past ++ storedEvents player found) (loot.take player found) := by
  intro other source item now shared
  have new := listedStores_stored other player source found
  rw [listedStores_append]
  have before : loot.item? source = some item := by
    rw [Loot.item?_take] at now
    split at now
    · rename_i taken
      rw [← taken.2, by_.item_here, map_some, some.injEq] at now
      rw [← now] at shared
      exact absurd (taken.1.symm.trans shared) (by decide)
    · exact now
  obtain ⟨few, marked⟩ := once other source item before shared
  split at new
  · rename_i same
    obtain ⟨rfl, rfl, listed⟩ := same
    obtain rfl := some.inj (by_.item_here.symm.trans before)
    obtain ⟨unmarked, now⟩ := ownMarked_taken formed by_ shared listed
    have none : listedStores player found.source past = 0 := by
      by_contra some
      exact unmarked (marked (by omega))
    exact ⟨by omega, fun _ => now⟩
  · exact ⟨by omega, fun some => (marked (by omega)).take player found⟩

theorem item?_given_freeforall {source other : Source} {item : LootItem}
    (here : (loot.given source).item? other = some item) :
    ∃ was, loot.item? other = some was ∧ item.freeforall = was.freeforall := by
  rw [Loot.item?_given] at here
  split at here
  · obtain ⟨was, there, rfl⟩ := map_eq_some_iff.mp here
    exact ⟨was, there, rfl⟩
  · exact ⟨item, here, rfl⟩

theorem sharesOnce_step (protos : Prototypes) {past : List Event}
    (request : Request) (once : SharesOnce past loot) (formed : loot.WellFormed) :
    SharesOnce (past ++ (step protos loot request).2) (step protos loot request).1 := by
  have steps := step_steps protos loot request
  generalize step protos loot request = next at steps
  cases steps with
  | refused =>
    rw [append_nil]
    exact once
  | stored player lootSlot canStore found stores =>
    exact sharesOnce_take once formed (Loot.lootItemInSlot_found stores.1)
  | given ready slotid target canStore source item gives =>
    intro player other now here shared
    obtain ⟨was, there, same⟩ := item?_given_freeforall here
    obtain ⟨few, marked⟩ := once player other was there (same.symm.trans shared)
    rw [listedStores_append, listedStores_given, Nat.add_zero]
    refine ⟨few, fun some => ?_⟩
    obtain ⟨ql, own, entry⟩ := marked some
    refine ⟨ql, ?_, entry⟩
    rw [← own]
    cases other <;> cases source <;> rfl
  | money =>
    rw [append_nil]
    intro player source item here shared
    have both := once player source item (by cases source <;> exact here) shared
    refine ⟨both.1, fun some => ?_⟩
    obtain ⟨ql, own, entry⟩ := both.2 some
    exact ⟨ql, by cases source <;> exact own, entry⟩

/-- What let a looter at an item that is free for all when the loot was filled: the item was
allowed for him, or it is a quest item that follows the loot rules of his group. -/
def Eligible (fill : Fill) (player : Nat) (source : Source) (item : LootItem) : Prop :=
  ∃ looter ∈ fill.looters, looter.1.guid = player ∧
    (item.allowedForPlayer fill.protos looter.1 = true ∨
      ((∃ j, source = .quest j) ∧ item.listedByGroup looter.1 = true))

/-- All entries for items that are free for all were given on such grounds. -/
def OwnEligible (fill : Fill) (loot : Loot) : Prop :=
  ∀ player source item, loot.item? source = some item → item.freeforall = true →
    ∀ ql, loot.ownList source player = some ql → source.index ∈ ql.map QuestItem.index →
      Eligible fill player source item

theorem Eligible.of_fixed {fill : Fill} {source : Source} {a b : LootItem}
    (eligible : Eligible fill player source a) (same : b.fixed = a.fixed) :
    Eligible fill player source b := by
  obtain ⟨looter, mem, guid, grounds⟩ := eligible
  refine ⟨looter, mem, guid, ?_⟩
  rw [LootItem.allowedForPlayer_of_fixed same, LootItem.listedByGroup_of_fixed same]
  exact grounds

theorem lookup_indices (map : QuestItemMap) (player : Nat) :
    (indices map).lookup player = (map.lookup player).map fun ql => ql.map QuestItem.index := by
  induction map with
  | nil => rfl
  | cons x map ih =>
    have first : indices (x :: map) = (x.1, x.2.map QuestItem.index) :: indices map := rfl
    rw [first, lookup_cons, lookup_cons, ih]
    split <;> rfl

variable {before after : Loot}

theorem Loot.SameShape.ownList (same : before.SameShape after) (source : Source) (player : Nat) :
    (after.ownList source player).map (fun ql => ql.map QuestItem.index) =
      (before.ownList source player).map (fun ql => ql.map QuestItem.index) := by
  cases source with
  | plain i =>
    simp only [Loot.ownList, ← lookup_indices, same.ffa]
  | quest j =>
    simp only [Loot.ownList, ← lookup_indices, same.quest]

theorem Loot.SameShape.symm (same : before.SameShape after) :
    after.SameShape before :=
  ⟨same.items.symm, same.questItems.symm, same.quest.symm, same.ffa.symm, same.conditional.symm⟩

theorem Loot.SameShape.ownEligible {fill : Fill}
    (same : before.SameShape after) (eligible : OwnEligible fill before) :
    OwnEligible fill after := by
  intro player source item here shared ql own mem
  obtain ⟨was, there, fixed⟩ := same.symm.item? here
  have positions := same.ownList source player
  rw [own, map_some] at positions
  obtain ⟨old, oldOwn, oldMap⟩ := map_eq_some_iff.mp positions.symm
  have grounds := eligible player source was there
    ((LootItem.freeforall_of_fixed fixed).trans shared) old oldOwn (by rw [oldMap]; exact mem)
  exact grounds.of_fixed fixed.symm

theorem lookup_addList_ne {map : QuestItemMap} {other : Nat} {fresh : List QuestItem}
    (apart : other ≠ player) : (addList map player fresh).lookup other = map.lookup other := by
  unfold addList
  split
  · rfl
  · rw [lookup_cons, if_neg apart]

theorem Listed.ownList_ne {protos : Prototypes} {player : Player} {present : Bool}
    {quest ffa conditional : List QuestItem}
    (listed : Listed protos player present before quest ffa conditional after)
    (source : Source) {other : Nat} (apart : other ≠ player.guid) :
    after.ownList source other = before.ownList source other := by
  rw [listed.result]
  cases source with
  | plain i => exact lookup_addList_ne apart
  | quest j => exact lookup_addList_ne apart

theorem ownList_none (unlisted : player ∉ loot.listedPlayers)
    (source : Source) : loot.ownList source player = none := by
  simp only [Loot.listedPlayers, map_append, mem_append, not_or] at unlisted
  cases source with
  | plain i => exact lookup_none_of_unlisted unlisted.1.2
  | quest j => exact lookup_none_of_unlisted unlisted.1.1

theorem Listed.ownEligible {fill : Fill} {looter : Player × Bool}
    {quest ffa conditional : List QuestItem} (among : looter ∈ fill.looters)
    (listed : Listed fill.protos looter.1 looter.2 before quest ffa conditional after)
    (unlisted : looter.1.guid ∉ before.listedPlayers) (eligible : OwnEligible fill before) :
    OwnEligible fill after := by
  intro player source item here shared ql own mem
  obtain ⟨was, there, _, fixed⟩ := listed.isLooted here
  by_cases same : player = looter.1.guid
  · subst same
    obtain ⟨entry, inList, index⟩ := mem_map.mp mem
    simp only [Loot.listedPlayers, map_append, mem_append, not_or] at unlisted
    refine Eligible.of_fixed ?_ fixed
    refine ⟨looter, among, rfl, ?_⟩
    cases source with
    | plain i =>
      rw [listed.result] at own
      obtain rfl := lookup_addList unlisted.1.2 own
      obtain ⟨old, at_, passed⟩ := listed.ffaListing.passes entry inList
      rw [index] at at_
      obtain rfl := some.inj (there.symm.trans at_)
      simp only [Loot.listedFFA, Bool.and_eq_true] at passed
      exact .inl passed.2
    | quest j =>
      rw [listed.result] at own
      obtain rfl := lookup_addList unlisted.1.1 own
      obtain ⟨old, at_, _, passed⟩ := listed.questListing.passes entry inList
      rw [index] at at_
      obtain rfl := some.inj (there.symm.trans at_)
      rcases passed with allowed | rules
      · exact .inl allowed
      · exact .inr ⟨⟨j, rfl⟩, rules⟩
  · rw [listed.ownList_ne source same] at own
    exact (eligible player source was there
      ((LootItem.freeforall_of_fixed fixed).symm.trans shared) ql own mem).of_fixed fixed

variable (fill : Fill) (gold : Nat)

theorem ownEligible_fillLoot :
    OwnEligible fill (fill.fillLoot gold).1 := by
  apply Fill.fillLoot_rule (P := fun filled => OwnEligible fill filled.1)
    (Q := fun _ now => OwnEligible fill now.1) fill gold
  · intro loot fresh player source item _ _ ql own
    have unlisted (player : Nat) : player ∉ loot.listedPlayers := by
      rw [fresh.unlisted]
      exact not_mem_nil
    have none := ownList_none (unlisted player) source
    rw [none] at own
    cases own
  · exact fun filled looter eligible _ among _ unlisted quest ffa conditional after listed =>
      listed.ownEligible among unlisted eligible
  · exact fun now player slot fits eligible _ _ =>
      (Loot.sameShape_storeLootItem now.1 player.guid slot fits).ownEligible eligible
  · exact fun _ _ eligible => eligible
  · exact fun threshold now eligible =>
      (sameShape_markUnderthreshold fill.protos threshold now.1).ownEligible eligible

theorem sharesOnce_fillLoot :
    SharesOnce (fill.fillLoot gold).2 (fill.fillLoot gold).1 := by
  apply Fill.fillLoot_rule (P := fun filled => SharesOnce filled.2 filled.1)
    (Q := fun _ now => SharesOnce now.2 now.1) fill gold
  · intro loot _ player source item _ _
    simp [listedStores]
  · intro filled looter once _ _ _ unlisted quest ffa conditional after listed player source now
      here shared
    obtain ⟨was, there, _, fixed⟩ := listed.isLooted here
    obtain ⟨few, marked⟩ := once player source was there
      ((LootItem.freeforall_of_fixed fixed).symm.trans shared)
    refine ⟨few, fun some => ?_⟩
    obtain ⟨ql, own, entry⟩ := marked some
    have apart : player ≠ looter.1.guid := by
      rintro rfl
      rw [ownList_none unlisted] at own
      cases own
    exact ⟨ql, by rw [listed.ownList_ne source apart]; exact own, entry⟩
  · intro now player slot fits once formed _
    rcases now.1.storeLootItem_cases player.guid slot fits with same | ⟨found, stores, result⟩
    · rw [same, append_nil]
      exact once
    · rw [result]
      exact sharesOnce_take once formed (Loot.lootItemInSlot_found stores.1)
  · exact fun _ _ once => once
  · intro threshold now once player source item here shared
    have shape := sameShape_markUnderthreshold fill.protos threshold now.1
    obtain ⟨was, there, fixed⟩ := shape.symm.item? here
    obtain ⟨few, marked⟩ := once player source was there
      ((LootItem.freeforall_of_fixed fixed).trans shared)
    refine ⟨few, fun some => ?_⟩
    obtain ⟨ql, own, entry⟩ := marked some
    exact ⟨ql, by cases source <;> exact own, entry⟩

/-- Player 2 of the group is not on the quest, but the shared quest item follows the group's
loot rules. -/
def ruledQuestFill : Fill where
  protos := fun _ => some { plainPrototype with partyLoot := true, followLootRules := true }
  rolled := [questDrop 11]
  lootOwner := questPlayer 1 (some ⟨.groupLoot, 1⟩) [11]
  group := some
    { members := [(questPlayer 1 (some ⟨.groupLoot, 1⟩) [11], true),
        (questPlayer 2 (some ⟨.groupLoot, 1⟩) [], true)]
      lootThreshold := 2
      distinct := by decide }
  canStore := fun _ _ => true

def ruledQuestItem : LootItem :=
  LootItem.ofStore { plainPrototype with partyLoot := true, followLootRules := true }
    (questDrop 11).entry 1

theorem ruledQuestFill_item : ((ruledQuestFill.fillLoot 0).1.item? (.quest 0)).map LootItem.fixed =
    some ruledQuestItem.fixed := by
  decide

theorem ruledQuestFill_stores : stores 2 (.quest 0)
    (ruledQuestFill.events 0 [.storeLootItem 2 0 true]) = 1 := by
  decide

end OpenWoW.Looting
