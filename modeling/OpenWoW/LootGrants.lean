import Mathlib.Data.List.Nodup
import OpenWoW.Lib.Run
import OpenWoW.LootFill

/-! How often an item of a loot gets into an inventory. -/
namespace OpenWoW.Looting

open List Option

def markLooted (entry : QuestItem) : QuestItem := { entry with isLooted := true }

theorem lookup_setLooted (map : QuestItemMap) (player pos other : Nat) :
    (Loot.setLooted map player pos).lookup other =
      (map.lookup other).map fun ql => if other = player then ql.modify pos markLooted else ql := by
  induction map with
  | nil => rfl
  | cons x map ih =>
    have first : Loot.setLooted (x :: map) player pos =
        (if x.1 = player then (x.1, x.2.modify pos markLooted) else x) ::
          Loot.setLooted map player pos := rfl
    rw [first, lookup_cons, lookup_cons, ih]
    by_cases same : other = x.1
    · by_cases own : x.1 = player
      · simp [own, same]
      · simp [own, same]
    have apart : other ≠ (if x.1 = player then (x.1, x.2.modify pos markLooted) else x).1 := by
      split <;> exact same
    rw [if_neg apart, if_neg same]

variable {ql : List QuestItem} {entry : QuestItem}

theorem unlooted_mem_modify {pos : Nat} (unique : (ql.map QuestItem.index).Nodup)
    (mem : entry ∈ ql.modify pos markLooted) (left : entry.isLooted = false) :
    entry ∈ ql ∧ ∀ marked, ql[pos]? = some marked → entry.index ≠ marked.index := by
  obtain ⟨k, there⟩ := mem_iff_getElem?.mp mem
  rw [getElem?_modify] at there
  obtain ⟨was, here, now⟩ := map_eq_some_iff.mp there
  split at now
  · rw [← now] at left
    cases left
  rename_i apart
  obtain rfl : was = entry := now
  refine ⟨mem_of_getElem? here, fun marked position same => apart ?_⟩
  have first : (ql.map QuestItem.index)[pos]? = some marked.index := by simp [position]
  have second : (ql.map QuestItem.index)[k]? = some marked.index := by simp [here, same]
  exact (List.getElem?_inj (List.getElem?_eq_some_iff.mp first).1 unique).mp
    (first.trans second.symm)

variable {map : QuestItemMap} {player : Nat}

theorem nodup_of_lookup (lists : ∀ x ∈ indices map, x.2.Nodup) (own : map.lookup player = some ql) :
    (ql.map QuestItem.index).Nodup :=
  lists (player, ql.map QuestItem.index) (mem_map.mpr ⟨(player, ql), lookup_mem own, rfl⟩)

theorem unlooted_setLooted {pos : Nat} {now : List QuestItem} (lists : ∀ x ∈ indices map, x.2.Nodup)
    (own : (Loot.setLooted map player pos).lookup player = some now) (mem : entry ∈ now)
    (left : entry.isLooted = false) :
    ∃ ql, map.lookup player = some ql ∧ entry ∈ ql ∧
      ∀ marked, ql[pos]? = some marked → entry.index ≠ marked.index := by
  rw [lookup_setLooted] at own
  obtain ⟨ql, was, rfl⟩ := map_eq_some_iff.mp own
  rw [if_pos rfl] at mem
  exact ⟨ql, was, unlooted_mem_modify (nodup_of_lookup lists was) mem left⟩

theorem looted_mem_modify (pos : Nat)
    (mem : entry ∈ ql) (looted : entry.isLooted = true) : entry ∈ ql.modify pos markLooted := by
  obtain ⟨k, there⟩ := mem_iff_getElem?.mp mem
  apply mem_of_getElem? (i := k)
  rw [getElem?_modify, there]
  have same : markLooted entry = entry := by
    cases entry
    simp only at looted
    rw [looted]
    rfl
  by_cases here : pos = k
  · simp [here, same]
  · simp [here]

theorem marked_mem_modify {pos : Nat}
    (position : ql[pos]? = some entry) : markLooted entry ∈ ql.modify pos markLooted := by
  apply mem_of_getElem? (i := pos)
  rw [getElem?_modify, position]
  simp

namespace Loot

theorem item?_take (loot : Loot) (player : Nat) (found : Found) (source : Source) :
    (loot.take player found).item? source =
      if found.item.freeforall = false ∧ found.source = source then
        (loot.item? source).map fun item => { item with isLooted := true }
      else loot.item? source := by
  have counter (changed : Loot) (n : UInt8) :
      ({ changed with unlootedCount := n } : Loot).item? source = changed.item? source := by
    cases source <;> rfl
  unfold take
  rw [counter]
  by_cases shared : found.item.freeforall = true
  · simp [shared]
  · simp only [shared, Bool.false_eq_true, if_false, item?_modifyItem, item?_markEntry,
      true_and]

theorem item?_given (loot : Loot) (source other : Source) :
    (loot.given source).item? other =
      if source = other then (loot.item? other).map giveItem else loot.item? other := by
  have counter (changed : Loot) (n : UInt8) :
      ({ changed with unlootedCount := n } : Loot).item? other = changed.item? other := by
    cases other <;> rfl
  rw [given, counter, item?_modifyItem]

end Loot

def Event.source : Event → Source
  | .stored _ source _ _ => source
  | .given _ source _ => source

/-- How often an element was put into an inventory. -/
def grants (source : Source) (events : List Event) : Nat :=
  events.countP fun event => event.source = source

theorem grants_append (source : Source) (past events : List Event) :
    grants source (past ++ events) = grants source past + grants source events :=
  countP_append

theorem grants_storedEvents (player : Nat) (found : Found) (source : Source) :
    grants source (storedEvents player found) ≤ if found.source = source then 1 else 0 := by
  unfold storedEvents
  split
  · exact Nat.zero_le _
  by_cases same : found.source = source
  · simp [grants, Event.source, same]
  · simp [grants, Event.source, same]

theorem grants_givenEvents (target : Nat) (given source : Source) (item : LootItem) :
    grants source (givenEvents target given item) =
      if item.count ≠ 0 ∧ given = source then 1 else 0 := by
  unfold givenEvents
  split
  · rename_i zero
    simp [grants, zero]
  rename_i some
  by_cases same : given = source
  · simp [grants, Event.source, same, some]
  · simp [grants, Event.source, same]

/-- No element that is not free for all was granted before it was marked, and none twice. -/
def SharedOnce (events : List Event) (loot : Loot) : Prop :=
  ∀ source item, loot.item? source = some item → item.freeforall = false →
    grants source events ≤ if item.isLooted then 1 else 0

/-- The request does not act on an element that is not free for all and already marked as
looted. Only own quest and conditional entries and the master looter's slot lead to one. -/
def FirstTake (protos : Prototypes) (loot : Loot) : Request → Prop
  | .storeLootItem player lootSlot canStore =>
    ∀ found, loot.storesLoot player lootSlot canStore found →
      found.item.freeforall = false → found.item.isLooted = false
  | .lootMasterGive ready slotid target canStore =>
    ∀ source item, loot.givesLoot protos ready slotid target canStore source item →
      item.freeforall = false → item.count ≠ 0 → item.isLooted = false
  | .lootMoney => True

variable {loot : Loot}

theorem sharedOnce_take {past : List Event} {found : Found}
    (once : SharedOnce past loot) (here : loot.item? found.source = some found.item)
    (first : found.item.freeforall = false → found.item.isLooted = false) :
    SharedOnce (past ++ storedEvents player found) (loot.take player found) := by
  intro source item now single
  have new := grants_storedEvents player found source
  rw [grants_append]
  rw [Loot.item?_take] at now
  split at now
  · rename_i taken
    obtain ⟨shared, rfl⟩ := taken
    rw [here] at now
    obtain rfl := some.inj now
    have before := once found.source found.item here shared
    simp only [first shared, Bool.false_eq_true, if_false] at before
    simp only [if_true] at new ⊢
    omega
  · rename_i other
    have before := once source item now single
    by_cases same : found.source = source
    · subst same
      obtain rfl := some.inj (here.symm.trans now)
      exact absurd ⟨single, rfl⟩ other
    · rw [if_neg same] at new
      omega

theorem sharedOnce_given {past : List Event} {target : Nat} {source : Source}
    {item : LootItem} (once : SharedOnce past loot) (here : loot.item? source = some item)
    (first : item.freeforall = false → item.count ≠ 0 → item.isLooted = false) :
    SharedOnce (past ++ givenEvents target source item) (loot.given source) := by
  intro other now there single
  rw [grants_append, grants_givenEvents]
  rw [Loot.item?_given] at there
  split at there
  · rename_i same
    subst same
    rw [here] at there
    obtain rfl := some.inj there
    have before := once source item here single
    simp only [giveItem, if_true]
    by_cases counts : item.count = 0
    · simp only [counts, ne_eq, not_true, false_and, if_false, Nat.add_zero]
      split at before <;> omega
    simp only [first single counts, Bool.false_eq_true, if_false] at before
    simp only [counts, ne_eq, not_false_eq_true, and_self, if_true]
    omega
  · rename_i apart
    simp only [apart, and_false, if_false, Nat.add_zero]
    exact once other now there single

variable {protos : Prototypes}

theorem sharedOnce_step {past : List Event}
    {request : Request} (once : SharedOnce past loot) (first : FirstTake protos loot request) :
    SharedOnce (past ++ (step protos loot request).2) (step protos loot request).1 := by
  have steps := step_steps protos loot request
  generalize step protos loot request = next at steps
  cases steps with
  | refused =>
    rw [append_nil]
    exact once
  | stored player lootSlot canStore found stores =>
    exact sharedOnce_take once (Loot.lootItemInSlot_found stores.1).item_here (first found stores)
  | given ready slotid target canStore source item gives =>
    exact sharedOnce_given once (Loot.masterItem_here gives.1) (first source item gives)
  | money =>
    rw [append_nil]
    intro source item here
    exact once source item (by cases source <;> exact here)

/-- A player's own entries that are still unlooted name unlooted elements, where these are not
free for all. Only other players can spoil this. -/
structure OwnUnlooted (player : Nat) (loot : Loot) : Prop where
  quest : ∀ ql, loot.playerQuestItems.lookup player = some ql → ∀ entry ∈ ql,
    entry.isLooted = false → ∀ item, loot.questItems[entry.index]? = some item →
      item.freeforall = false → item.isLooted = false
  conditional : ∀ ql, loot.playerNonQuestNonFFAConditionalItems.lookup player = some ql →
    ∀ entry ∈ ql, entry.isLooted = false → ∀ item, loot.items[entry.index]? = some item →
      item.freeforall = false → item.isLooted = false

variable {lootSlot : Nat}

theorem OwnUnlooted.first {found : Found}
    (own : OwnUnlooted player loot) (by_ : loot.FoundBy lootSlot player found)
    (single : found.item.freeforall = false) : found.item.isLooted = false := by
  cases by_ with
  | quest ql entry item past list position here left =>
    exact own.quest ql list entry (mem_of_getElem? position) left item here single
  | ffa ql entry pos item here shared list position same left =>
    rw [shared] at single
    cases single
  | conditional ql entry pos item here single conditions list position same left =>
    subst same
    exact own.conditional ql list entry (mem_of_getElem? position) left item here single
  | unlisted item here left ffa conditional => exact left

theorem playerQuestItems_take (loot : Loot) (player : Nat) (found : Found) :
    (loot.take player found).playerQuestItems =
      match found.entry with
      | some (.quest, pos) => Loot.setLooted loot.playerQuestItems player pos
      | _ => loot.playerQuestItems := by
  unfold Loot.take Loot.modifyItem Loot.markEntry
  rcases found with ⟨_ | _, item, _ | ⟨_ | _ | _, pos⟩⟩ <;> cases item.freeforall <;> rfl

theorem playerFFAItems_take (loot : Loot) (player : Nat) (found : Found) :
    (loot.take player found).playerFFAItems =
      match found.entry with
      | some (.ffa, pos) => Loot.setLooted loot.playerFFAItems player pos
      | _ => loot.playerFFAItems := by
  unfold Loot.take Loot.modifyItem Loot.markEntry
  rcases found with ⟨_ | _, item, _ | ⟨_ | _ | _, pos⟩⟩ <;> cases item.freeforall <;> rfl

theorem conditionalItems_take (loot : Loot) (player : Nat) (found : Found) :
    (loot.take player found).playerNonQuestNonFFAConditionalItems =
      match found.entry with
      | some (.conditional, pos) =>
        Loot.setLooted loot.playerNonQuestNonFFAConditionalItems player pos
      | _ => loot.playerNonQuestNonFFAConditionalItems := by
  unfold Loot.take Loot.modifyItem Loot.markEntry
  rcases found with ⟨_ | _, item, _ | ⟨_ | _ | _, pos⟩⟩ <;> cases item.freeforall <;> rfl

theorem findEntry_none
    (own : map.lookup player = some ql) (none : Loot.findEntry map player lootSlot = none) :
    ∀ entry ∈ ql, entry.index ≠ lootSlot := by
  intro entry mem same
  obtain ⟨pos, there⟩ := mem_iff_getElem?.mp mem
  simp only [Loot.findEntry, own, find?_eq_none] at none
  exact none (entry, pos) (mem_zipIdx_iff_getElem?.mpr there) (by simpa using same)

theorem OwnUnlooted.take {found : Found} (own : OwnUnlooted player loot) (formed : loot.WellFormed)
    (by_ : loot.FoundBy lootSlot player found) : OwnUnlooted player (loot.take player found) := by
  have questLists : ∀ x ∈ indices loot.playerQuestItems, x.2.Nodup :=
    fun x mem => (formed.quest x mem).1
  have conditionalLists : ∀ x ∈ indices loot.playerNonQuestNonFFAConditionalItems, x.2.Nodup :=
    fun x mem => (formed.conditional x mem).1
  constructor
  · intro now list entry mem left item here single
    have at_ : (loot.take player found).item? (.quest entry.index) = some item := here
    rw [Loot.item?_take] at at_
    rw [playerQuestItems_take] at list
    cases by_ with
    | quest ql taken first past owned position there unlooted =>
      obtain ⟨old, was, inOld, apart⟩ := unlooted_setLooted questLists list mem left
      obtain rfl := some.inj (owned.symm.trans was)
      have other : Source.quest taken.index ≠ .quest entry.index :=
        fun same => apart taken position (Source.quest.inj same).symm
      rw [if_neg fun both => other both.2] at at_
      exact own.quest ql owned entry inOld left item at_ single
    | ffa | conditional | unlisted =>
      rw [if_neg fun both => by cases both.2] at at_
      exact own.quest now list entry mem left item at_ single
  · intro now list entry mem left item here single
    have at_ : (loot.take player found).item? (.plain entry.index) = some item := here
    rw [Loot.item?_take] at at_
    rw [conditionalItems_take] at list
    cases by_ with
    | quest =>
      rw [if_neg fun both => by cases both.2] at at_
      exact own.conditional now list entry mem left item at_ single
    | ffa ql taken pos first there shared owned position same unlooted =>
      rw [if_neg fun both => by rw [shared] at both; cases both.1] at at_
      exact own.conditional now list entry mem left item at_ single
    | conditional ql taken pos first there alone guarded owned position same unlooted =>
      obtain ⟨old, was, inOld, apart⟩ := unlooted_setLooted conditionalLists list mem left
      obtain rfl := some.inj (owned.symm.trans was)
      have other : Source.plain lootSlot ≠ .plain entry.index :=
        fun equal => apart taken position ((Source.plain.inj equal).symm.trans same.symm)
      rw [if_neg fun both => other both.2] at at_
      exact own.conditional ql owned entry inOld left item at_ single
    | unlisted first there unlooted ffa conditional =>
      -- A plain item without an own entry is none that the player's conditional list names.
      have other : ¬ (first.freeforall = false ∧ Source.plain lootSlot = .plain entry.index) := by
        rintro ⟨alone, equal⟩
        obtain rfl := Source.plain.inj equal
        obtain ⟨known, there', _, guarded⟩ := (formed.conditional _ (mem_map.mpr
          ⟨(player, now), lookup_mem list, rfl⟩)).2 entry.index (mem_map_of_mem mem)
        obtain rfl := some.inj (there.symm.trans there')
        exact findEntry_none list (conditional alone guarded) entry mem rfl
      rw [if_neg other] at at_
      exact own.conditional now list entry mem left item at_ single

theorem OwnUnlooted.store (canStore : Bool)
    (own : OwnUnlooted player loot) (formed : loot.WellFormed) :
    OwnUnlooted player (loot.storeLootItem player lootSlot canStore).1 := by
  rcases loot.storeLootItem_cases player lootSlot canStore with same | ⟨found, stores, result⟩
  · rw [same]
    exact own
  · rw [result]
    exact own.take formed (Loot.lootItemInSlot_found stores.1)

theorem lookup_addList {fresh : List QuestItem} (unlisted : player ∉ (indices map).map (·.1))
    (own : (addList map player fresh).lookup player = some ql) : ql = fresh := by
  unfold addList at own
  split at own
  · rw [lookup_none_of_unlisted unlisted] at own
    cases own
  · rw [lookup_cons, if_pos rfl] at own
    exact (some.inj own).symm

section
variable {player : Player} {present : Bool} {before after : Loot}
  {quest ffa conditional : List QuestItem}
  (listed : Listed protos player present before quest ffa conditional after)
include listed

theorem Listed.ownUnlooted
    (unlisted : player.guid ∉ before.listedPlayers) : OwnUnlooted player.guid after := by
  simp only [Loot.listedPlayers, map_append, mem_append, not_or] at unlisted
  rw [listed.result]
  constructor
  · intro ql own entry mem _ item here _
    obtain rfl := lookup_addList unlisted.1.1 own
    obtain ⟨old, was, opened, _⟩ := listed.questListing.passes entry mem
    simp only [getElem?_mapIdx, was, map_some, some.injEq] at here
    rw [← here, ← opened]
    unfold blockListed
    split <;> rfl
  · intro ql own entry mem _ item here _
    obtain rfl := lookup_addList unlisted.2 own
    obtain ⟨old, was, passed⟩ := listed.conditionalListing.passes entry mem
    simp only [getElem?_map, was, map_some, some.injEq] at here
    obtain ⟨guids, marked⟩ := markConditional_eq protos player present old
    rw [← here, marked]
    simp only [Loot.listedConditional, Loot.openTo, Bool.and_eq_true, Bool.not_eq_true'] at passed
    exact passed.1.1.1

theorem Listed.isLooted
    {source : Source} {now : LootItem} (here : after.item? source = some now) :
    ∃ was, before.item? source = some was ∧ now.isLooted = was.isLooted ∧
      now.fixed = was.fixed := by
  rw [listed.result] at here
  cases source with
  | plain i =>
    simp only [Loot.item?_plain, getElem?_map] at here ⊢
    obtain ⟨was, there, rfl⟩ := map_eq_some_iff.mp here
    obtain ⟨guids, marked⟩ := markConditional_eq protos player present was
    exact ⟨was, there, by rw [marked], markConditional_fixed protos player present was⟩
  | quest j =>
    simp only [Loot.item?_quest, getElem?_mapIdx] at here ⊢
    obtain ⟨was, there, rfl⟩ := map_eq_some_iff.mp here
    refine ⟨was, there, ?_, blockListed_fixed player quest j was⟩
    unfold blockListed
    split <;> rfl

end

theorem sharedOnce_fillLoot (fill : Fill) (gold : Nat) :
    SharedOnce (fill.fillLoot gold).2 (fill.fillLoot gold).1 := by
  apply Fill.fillLoot_rule (P := fun filled => SharedOnce filled.2 filled.1)
    (Q := fun player now => SharedOnce now.2 now.1 ∧ OwnUnlooted player.guid now.1) fill gold
  · intro loot _ source item _ _
    simp [grants]
  · intro filled looter once formed _ _ unlisted quest ffa conditional after listed
    refine ⟨fun source now here single => ?_, listed.ownUnlooted unlisted⟩
    obtain ⟨was, there, looted, fixed⟩ := listed.isLooted here
    rw [looted]
    exact once source was there ((LootItem.freeforall_of_fixed fixed).symm.trans single)
  · intro now player slot fits both formed _
    refine ⟨?_, both.2.store fits formed⟩
    rcases now.1.storeLootItem_cases player.guid slot fits with same | ⟨found, stores, result⟩
    · rw [same, append_nil]
      exact both.1
    rw [result]
    have by_ := Loot.lootItemInSlot_found stores.1
    exact sharedOnce_take both.1 by_.item_here (both.2.first by_)
  · exact fun _ _ both => both.1
  · intro threshold now once source item here single
    cases source with
    | plain i =>
      simp only [Loot.markUnderthreshold, Loot.item?_plain, getElem?_map] at here
      obtain ⟨was, there, rfl⟩ := map_eq_some_iff.mp here
      have before := once (.plain i) was there (by
        rw [← single]
        split <;> rfl)
      split <;> exact before
    | quest j => exact once (.quest j) item here single

/-- What was put into inventories while a loot was filled and by the requests since then. -/
def Fill.events (fill : Fill) (gold : Nat) (requests : List Request) : List Event :=
  (fill.fillLoot gold).2 ++
    (Run.trace (step fill.protos) (fill.fillLoot gold).1 requests).flatMap (·.out)

/-- Every request leaves the items that were generated, in lists whose positions exist. -/
theorem fillLoot_shape_kept (fill : Fill) (gold : Nat) (requests : List Request) :
    let loot := Run.final (step fill.protos) (fill.fillLoot gold).1 requests
    (fill.fillLoot gold).1.SameShape loot ∧ loot.WellFormed := by
  have shape := Run.history (step fill.protos) (fun _ _ => True)
    (fun _ loot => (fill.fillLoot gold).1.SameShape loot)
    (fun _ loot request same _ => same.trans (sameShape_step fill.protos loot request)) [] _
    requests (.refl _) (fun _ _ => trivial)
  exact ⟨shape, shape.wellFormed (fill.fillLoot_wellFormed gold)⟩

/-- Two members of a group are on the quest that one quest item is for. -/
def sharedQuestFill : Fill where
  protos := fun _ => some plainPrototype
  rolled := [questDrop 11]
  lootOwner := questPlayer 1 (some ⟨.groupLoot, 1⟩) [11]
  group := some
    { members := [(questPlayer 1 (some ⟨.groupLoot, 1⟩) [11], true),
        (questPlayer 2 (some ⟨.groupLoot, 1⟩) [11], true)]
      lootThreshold := 2
      distinct := by decide }
  canStore := fun _ _ => true

def sharedQuestItem : LootItem :=
  LootItem.ofStore plainPrototype (questDrop 11).entry 1

theorem sharedQuestFill_item :
    (sharedQuestFill.fillLoot 0).1.item? (.quest 0) = some sharedQuestItem := by
  rfl

end OpenWoW.Looting
