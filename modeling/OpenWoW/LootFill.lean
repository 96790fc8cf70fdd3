import OpenWoW.LootSteps

/-! What the filling of a loot makes: the lists of each player, one looter after another. -/
namespace OpenWoW.Looting

open List

theorem lookup_cons {α : Type} (x : Nat × α) (map : List (Nat × α)) (player : Nat) :
    (x :: map).lookup player = if player = x.1 then some x.2 else map.lookup player := by
  rw [List.lookup_cons]
  by_cases same : player = x.1
  · simp [same]
  · rw [beq_false_of_ne same, if_neg same]

theorem lookup_mem {α : Type} {map : List (Nat × α)} {player : Nat} {a : α}
    (own : map.lookup player = some a) : (player, a) ∈ map := by
  induction map with
  | nil => cases own
  | cons x map ih =>
    rw [lookup_cons] at own
    split at own
    · rename_i same
      have whole : x = (player, a) := Prod.ext same.symm (Option.some.inj own)
      rw [whole]
      exact mem_cons_self
    · exact mem_cons_of_mem x (ih own)

theorem lookup_isSome {α : Type} (map : List (Nat × α)) (player : Nat) :
    (map.lookup player).isSome ↔ player ∈ map.map (·.1) := by
  induction map with
  | nil => simp
  | cons x map ih =>
    rw [lookup_cons, map_cons, mem_cons]
    by_cases same : player = x.1
    · simp [same]
    · simp [same, ih]

/-- A list that a player can have been given: unlooted entries for different elements that
pass a test. -/
structure Listing (test : LootItem → Prop) (items : List LootItem) (fresh : List QuestItem) :
    Prop where
  sorted : fresh.Pairwise fun a b => a.index < b.index
  unlooted : ∀ entry ∈ fresh, entry.isLooted = false
  passes : ∀ entry ∈ fresh, ∃ item, items[entry.index]? = some item ∧ test item

theorem Listing.nodup {test : LootItem → Prop} {items : List LootItem} {fresh : List QuestItem}
    (listing : Listing test items fresh) : (fresh.map QuestItem.index).Nodup := by
  rw [List.Nodup, pairwise_map]
  exact listing.sorted.imp fun less => Nat.ne_of_lt less

variable (test : LootItem → Bool) (items : List LootItem) (fill : Fill) (gold : Nat)

theorem entriesOf_listing :
    Listing (fun item => test item = true) items (Loot.entriesOf test items) where
  sorted := by
    have sorted : (items.zipIdx.map (·.2)).Pairwise (· < ·) := by
      rw [zipIdx_map_snd]
      exact pairwise_lt_range'
    have kept := (pairwise_map.mp sorted).filter fun x : LootItem × Nat => test x.1
    exact pairwise_map.mpr kept
  unlooted := by
    intro entry here
    obtain ⟨x, _, rfl⟩ := mem_map.mp here
    rfl
  passes := by
    intro entry here
    obtain ⟨x, mem, rfl⟩ := mem_map.mp here
    obtain ⟨there, passed⟩ := mem_filter.mp mem
    exact ⟨x.1, mem_zipIdx_iff_getElem?.mp there, passed⟩

variable {item : LootItem}

theorem entriesOf_complete {test : LootItem → Bool} {items : List LootItem} {i : Nat}
    (here : items[i]? = some item) (passed : test item = true) :
    i ∈ (Loot.entriesOf test items).map QuestItem.index := by
  refine mem_map.mpr ⟨⟨i, false⟩, mem_map.mpr ⟨(item, i), ?_, rfl⟩, rfl⟩
  exact mem_filter.mpr ⟨mem_zipIdx_iff_getElem?.mpr here, passed⟩

theorem entriesOf_length :
    (Loot.entriesOf test items).length = items.countP test := by
  have first : items = items.zipIdx.map (·.1) := by rw [zipIdx_map_fst]
  conv_rhs => rw [first, countP_map]
  rw [Loot.entriesOf, length_map, countP_eq_length_filter]
  rfl

def openQuest (protos : Prototypes) (player : Player) (item : LootItem) : Prop :=
  item.isLooted = false ∧
    (item.allowedForPlayer protos player = true ∨ item.listedByGroup player = true)

def countsEntry (items : List LootItem) (entry : QuestItem) : Bool :=
  (items[entry.index]?).any fun item => item.freeforall || !item.isBlocked

def blockListed (player : Player) (fresh : List QuestItem) (j : Nat) (item : LootItem) :
    LootItem :=
  if Loot.blocksQuestItems player ∧ j ∈ fresh.map QuestItem.index then
    { item with isBlocked := true }
  else item

theorem blockListed_of_notMem (player : Player) (fresh : List QuestItem) (j : Nat)
    (item : LootItem) (outside : j ∉ fresh.map QuestItem.index) :
    blockListed player fresh j item = item := by
  rw [blockListed, if_neg fun both => outside both.2]

theorem blockListed_cons_ne (player : Player) {entry : QuestItem} (fresh : List QuestItem)
    {j : Nat} (apart : j ≠ entry.index) :
    blockListed player (entry :: fresh) j = blockListed player fresh j := by
  funext item
  simp [blockListed, apart]

theorem listQuestItems_spec (protos : Prototypes) (player : Player) (itemsSize : Nat)
    (all : List LootItem) (start : Nat) (items : List LootItem) (ql : List QuestItem)
    (unlooted : UInt8) (rest : all.drop start = items) :
    ∃ fresh, Listing (openQuest protos player) all fresh ∧
      (∀ entry ∈ fresh, start ≤ entry.index) ∧
      (itemsSize + ql.length < maxNrLootItems →
        itemsSize + ql.length + fresh.length ≤ maxNrLootItems) ∧
      (Loot.listQuestItems protos player itemsSize start items ql unlooted).2.1 = ql ++ fresh ∧
      (Loot.listQuestItems protos player itemsSize start items ql unlooted).2.2 =
        unlooted + UInt8.ofNat (fresh.countP (countsEntry all)) ∧
      ∀ k, (Loot.listQuestItems protos player itemsSize start items ql unlooted).1[k]? =
        (all[start + k]?).map (blockListed player fresh (start + k)) := by
  induction items generalizing start ql unlooted with
  | nil =>
    have short : all.length ≤ start := drop_eq_nil_iff.mp rest
    refine ⟨[], ⟨List.Pairwise.nil, by simp, by simp⟩, by simp, fun _ => by simp; omega, ?_, ?_, ?_⟩
    · simp [Loot.listQuestItems]
    · simp [Loot.listQuestItems]
    · intro k
      have none : all[start + k]? = none := getElem?_eq_none (by omega)
      simp [Loot.listQuestItems, none]
  | cons item items ih =>
    have here : all[start]? = some item := by
      have head : (all.drop start)[0]? = all[start + 0]? := getElem?_drop
      rw [rest] at head
      simpa using head.symm
    have next : all.drop (start + 1) = items := by
      rw [← drop_drop, rest, drop_one, tail_cons]
    have shift (k : Nat) : start + (k + 1) = start + 1 + k := by omega
    unfold Loot.listQuestItems
    split
    · rename_i opened
      have passes : openQuest protos player item := by
        simpa [openQuest] using opened
      have counted : ∀ more : List QuestItem,
          (if (item.freeforall || !item.isBlocked) = true then unlooted + 1 else unlooted) +
            UInt8.ofNat (more.countP (countsEntry all)) =
          unlooted +
            UInt8.ofNat ((⟨start, false⟩ :: more : List QuestItem).countP (countsEntry all)) := by
        intro more
        rw [countP_cons]
        simp only [countsEntry, here, Option.any_some]
        by_cases counts : (item.freeforall || !item.isBlocked) = true
        · rw [if_pos counts, if_pos counts, UInt8.ofNat_add]
          simp only [UInt8.add_assoc]
          rw [UInt8.add_comm 1]
          rfl
        · rw [if_neg counts, if_neg counts]
          rfl
      by_cases last : itemsSize + (ql ++ [(⟨start, false⟩ : QuestItem)]).length = maxNrLootItems
      · simp only [last, if_true]
        refine ⟨[⟨start, false⟩], ⟨by simp, by simp, ?_⟩, by simp, ?_, rfl, ?_, ?_⟩
        · intro entry mem
          obtain rfl := mem_singleton.mp mem
          exact ⟨item, here, passes⟩
        · intro _
          simp only [length_append, length_singleton] at last
          simp only [length_singleton]
          omega
        · have one := counted []
          simpa using one
        · intro k
          cases k with
          | zero => simp [here, blockListed]
          | succ k =>
            have after : all[start + (k + 1)]? = items[k]? := by
              rw [shift k, ← getElem?_drop, next]
            rw [blockListed_cons_ne player [] (by simp), after,
              getElem?_cons_succ]
            have same : blockListed player [] (start + (k + 1)) = id := by
              funext item
              exact blockListed_of_notMem player [] _ item (by simp)
            rw [same, Option.map_id_fun, id]
      · simp only [last, if_false]
        obtain ⟨fresh, listing, from_, bound, list, count, marked⟩ := ih (start + 1)
          (ql ++ [⟨start, false⟩])
          (if (item.freeforall || !item.isBlocked) = true then unlooted + 1 else unlooted) next
        refine ⟨⟨start, false⟩ :: fresh, ⟨?_, ?_, ?_⟩, ?_, ?_, ?_, ?_, ?_⟩
        · exact pairwise_cons.mpr ⟨fun e mem => from_ e mem, listing.sorted⟩
        · intro entry mem
          rcases mem_cons.mp mem with rfl | later
          · rfl
          · exact listing.unlooted entry later
        · intro entry mem
          rcases mem_cons.mp mem with rfl | later
          · exact ⟨item, here, passes⟩
          · exact listing.passes entry later
        · intro entry mem
          rcases mem_cons.mp mem with rfl | later
          · exact Nat.le_refl _
          · exact Nat.le_trans (Nat.le_succ start) (from_ entry later)
        · intro room
          simp only [length_append, length_singleton] at bound last
          simp only [length_cons]
          omega
        · rw [list]
          simp
        · rw [count]
          exact counted fresh
        · intro k
          cases k with
          | zero => simp [here, blockListed]
          | succ k =>
            rw [blockListed_cons_ne player fresh (by simp),
              getElem?_cons_succ, marked, shift k]
    · obtain ⟨fresh, listing, from_, bound, list, count, marked⟩ :=
        ih (start + 1) ql unlooted next
      refine ⟨fresh, listing, fun e mem => Nat.le_trans (Nat.le_succ start) (from_ e mem),
        bound, list, count, ?_⟩
      intro k
      cases k with
      | zero =>
        have outside : start ∉ fresh.map QuestItem.index := by
          intro mem
          obtain ⟨e, there, index⟩ := mem_map.mp mem
          have later := from_ e there
          omega
        simp only [getElem?_cons_zero, Nat.add_zero, here, Option.map_some,
          blockListed_of_notMem player fresh start item outside]
      | succ k => rw [getElem?_cons_succ, marked, shift k]

/-- A player's list is put into a map, unless it is empty. -/
def addList (map : QuestItemMap) (player : Nat) (ql : List QuestItem) : QuestItemMap :=
  if ql.isEmpty then map else (player, ql) :: map

theorem fillQuestLoot_spec (protos : Prototypes) (loot : Loot) (player : Player)
    (few : loot.items.length ≤ maxNrLootItems) :
    ∃ fresh, Listing (openQuest protos player) loot.questItems fresh ∧
      loot.items.length + fresh.length ≤ maxNrLootItems ∧
      Loot.fillQuestLoot protos loot player =
        { loot with
          questItems := loot.questItems.mapIdx (blockListed player fresh)
          unlootedCount := loot.unlootedCount +
            UInt8.ofNat (fresh.countP (countsEntry loot.questItems))
          playerQuestItems := addList loot.playerQuestItems player.guid fresh } := by
  unfold Loot.fillQuestLoot
  split
  · refine ⟨[], ⟨List.Pairwise.nil, by simp, by simp⟩, by simpa using few, ?_⟩
    have same : loot.questItems.mapIdx (blockListed player []) = loot.questItems := by
      apply ext_getElem?
      intro j
      have unblocked : blockListed player [] j = id := by
        funext item
        exact blockListed_of_notMem player [] j item (by simp)
      rw [getElem?_mapIdx, unblocked, Option.map_id_fun, id]
    rw [same]
    simp [addList]
  · rename_i room
    obtain ⟨fresh, listing, _, bound, list, count, marked⟩ := listQuestItems_spec protos player
      loot.items.length loot.questItems 0 loot.questItems [] loot.unlootedCount rfl
    have short := bound (by simp only [length_nil]; omega)
    refine ⟨fresh, listing, by simpa using short, ?_⟩
    have items : (Loot.listQuestItems protos player loot.items.length 0 loot.questItems []
        loot.unlootedCount).1 = loot.questItems.mapIdx (blockListed player fresh) := by
      apply ext_getElem?
      intro j
      rw [marked, getElem?_mapIdx, Nat.zero_add]
    simp only [items, list, count, nil_append, addList]

def Loot.listedPlayers (loot : Loot) : List Nat :=
  (indices loot.playerQuestItems ++ indices loot.playerFFAItems ++
    indices loot.playerNonQuestNonFFAConditionalItems).map (·.1)

variable {before after : Loot}

theorem Loot.SameShape.listedPlayers (same : before.SameShape after) :
    after.listedPlayers = before.listedPlayers := by
  rw [Loot.listedPlayers, Loot.listedPlayers, same.quest, same.ffa, same.conditional]

theorem indices_fst (map : QuestItemMap) : (indices map).map (·.1) = map.map (·.1) := by
  rw [indices, map_map]
  rfl

theorem lookup_none_of_unlisted {map : QuestItemMap} {player : Nat}
    (unlisted : player ∉ (indices map).map (·.1)) : map.lookup player = none := by
  rw [indices_fst] at unlisted
  cases own : map.lookup player with
  | none => rfl
  | some ql => exact absurd ((lookup_isSome map player).mp (by rw [own]; rfl)) unlisted

structure Listed (protos : Prototypes) (player : Player) (presentAtLooting : Bool)
    (before : Loot) (quest ffa conditional : List QuestItem) (after : Loot) : Prop where
  questListing : Listing (openQuest protos player) before.questItems quest
  ffaListing : Listing (fun item => Loot.listedFFA protos player item = true) before.items ffa
  conditionalListing :
    Listing (fun item => Loot.listedConditional protos player item = true) before.items conditional
  few : before.items.length + quest.length ≤ maxNrLootItems
  questMap : (Loot.fillQuestLoot protos before player).playerQuestItems =
    addList before.playerQuestItems player.guid quest
  ffaListed : ∀ i item, before.items[i]? = some item → Loot.listedFFA protos player item = true →
    i ∈ ffa.map QuestItem.index
  ffaLength : ffa.length = before.items.countP (Loot.listedFFA protos player)
  result : after =
    { before with
      items := before.items.map (Loot.markConditional protos player presentAtLooting)
      questItems := before.questItems.mapIdx (blockListed player quest)
      unlootedCount := before.unlootedCount +
        UInt8.ofNat (quest.countP (countsEntry before.questItems)) + UInt8.ofNat ffa.length +
        UInt8.ofNat (before.items.countP fun item =>
          Loot.listedConditional protos player item && !item.isCounted)
      playerQuestItems := addList before.playerQuestItems player.guid quest
      playerFFAItems := addList before.playerFFAItems player.guid ffa
      playerNonQuestNonFFAConditionalItems :=
        addList before.playerNonQuestNonFFAConditionalItems player.guid conditional }

theorem fillLists_spec (protos : Prototypes) {loot : Loot} {player : Player}
    (presentAtLooting : Bool) (few : loot.items.length ≤ maxNrLootItems)
    (unlisted : player.guid ∉ loot.listedPlayers) :
    ∃ quest ffa conditional, Listed protos player presentAtLooting loot quest ffa conditional
      (Loot.fillLists protos loot player presentAtLooting) := by
  simp only [Loot.listedPlayers, map_append, mem_append, not_or] at unlisted
  have noQuest := lookup_none_of_unlisted unlisted.1.1
  have noFFA := lookup_none_of_unlisted unlisted.1.2
  have noConditional := lookup_none_of_unlisted unlisted.2
  obtain ⟨quest, listing, short, made⟩ := fillQuestLoot_spec protos loot player few
  refine ⟨quest, Loot.entriesOf (Loot.listedFFA protos player) loot.items,
    Loot.entriesOf (Loot.listedConditional protos player) loot.items, ?_⟩
  refine ⟨listing, entriesOf_listing _ _, entriesOf_listing _ _, short, by rw [made],
    fun i item here passed => entriesOf_complete here passed, entriesOf_length _ _, ?_⟩
  simp only [Loot.fillLists, noQuest, Option.isNone_none, if_true, made, Loot.fillFFALoot, noFFA,
    Loot.fillNonQuestNonFFAConditionalLoot, noConditional, addList]

/-- Every loot state inside the filling and after it. -/
structure Loot.WellFormed (loot : Loot) : Prop where
  few : loot.items.length ≤ maxNrLootItems
  quest : ∀ x ∈ indices loot.playerQuestItems, x.2.Nodup ∧
    loot.items.length + x.2.length ≤ maxNrLootItems ∧ ∀ j ∈ x.2, j < loot.questItems.length
  ffa : ∀ x ∈ indices loot.playerFFAItems, x.2.Nodup ∧
    ∀ i ∈ x.2, ∃ item, loot.items[i]? = some item ∧ item.freeforall = true
  conditional : ∀ x ∈ indices loot.playerNonQuestNonFFAConditionalItems, x.2.Nodup ∧
    ∀ i ∈ x.2, ∃ item, loot.items[i]? = some item ∧ item.freeforall = false ∧
      item.conditions.isEmpty = false

theorem getElem?_of_map_fixed {before after : List LootItem}
    (same : after.map LootItem.fixed = before.map LootItem.fixed) {i : Nat}
    (here : before[i]? = some item) : ∃ now, after[i]? = some now ∧ now.fixed = item.fixed := by
  have was : (before.map LootItem.fixed)[i]? = some item.fixed := by simp [here]
  rw [← same, getElem?_map, Option.map_eq_some_iff] at was
  exact was

variable {a b : LootItem}

theorem LootItem.freeforall_of_fixed (same : a.fixed = b.fixed) :
    a.freeforall = b.freeforall := congrArg (·.2.2.1) same

theorem LootItem.conditions_of_fixed (same : a.fixed = b.fixed) :
    a.conditions = b.conditions := congrArg (·.2.1) same

theorem LootItem.allowedForPlayer_of_fixed (same : a.fixed = b.fixed)
    (protos : Prototypes) (player : Player) :
    a.allowedForPlayer protos player = b.allowedForPlayer protos player := by
  have itemid : a.itemid = b.itemid := congrArg (·.1) same
  have needsQuest : a.needsQuest = b.needsQuest := congrArg (·.2.2.2.1) same
  simp only [LootItem.allowedForPlayer, LootItem.conditions_of_fixed same, itemid, needsQuest]

theorem LootItem.listedByGroup_of_fixed (same : a.fixed = b.fixed)
    (player : Player) : a.listedByGroup player = b.listedByGroup player := by
  have follows : a.followLootRules = b.followLootRules := congrArg (·.2.2.2.2) same
  simp only [LootItem.listedByGroup, follows]

theorem Loot.SameShape.plain? (same : before.SameShape after) {i : Nat}
    (here : before.items[i]? = some item) :
    ∃ now, after.items[i]? = some now ∧ now.fixed = item.fixed :=
  getElem?_of_map_fixed same.items here

theorem Loot.SameShape.item? (same : before.SameShape after)
    {source : Source} (here : before.item? source = some item) :
    ∃ now, after.item? source = some now ∧ now.fixed = item.fixed := by
  cases source with
  | plain i => exact getElem?_of_map_fixed same.items here
  | quest j => exact getElem?_of_map_fixed same.questItems here

theorem Loot.SameShape.wellFormed (same : before.SameShape after)
    (formed : before.WellFormed) : after.WellFormed := by
  have size : after.items.length = before.items.length := by
    have lengths := congrArg List.length same.items
    simpa using lengths
  have questSize : after.questItems.length = before.questItems.length := by
    have lengths := congrArg List.length same.questItems
    simpa using lengths
  refine ⟨?_, ?_, ?_, ?_⟩
  · rw [size]
    exact formed.few
  · rw [same.quest, size, questSize]
    exact formed.quest
  · rw [same.ffa]
    intro x here
    refine ⟨(formed.ffa x here).1, fun i mem => ?_⟩
    obtain ⟨item, there, shared⟩ := (formed.ffa x here).2 i mem
    obtain ⟨now, still, fixed⟩ := same.plain? there
    exact ⟨now, still, (LootItem.freeforall_of_fixed fixed).trans shared⟩
  · rw [same.conditional]
    intro x here
    refine ⟨(formed.conditional x here).1, fun i mem => ?_⟩
    obtain ⟨item, there, single, guarded⟩ := (formed.conditional x here).2 i mem
    obtain ⟨now, still, fixed⟩ := same.plain? there
    refine ⟨now, still, (LootItem.freeforall_of_fixed fixed).trans single, ?_⟩
    rw [LootItem.conditions_of_fixed fixed]
    exact guarded

theorem addAllowedLooter_eq (item : LootItem) (player : Nat) :
    ∃ guids, item.addAllowedLooter player = { item with allowedGUIDs := guids } := by
  unfold LootItem.addAllowedLooter
  split
  · exact ⟨item.allowedGUIDs, rfl⟩
  · exact ⟨_, rfl⟩

theorem markConditional_eq (protos : Prototypes) (player : Player) (present : Bool)
    (item : LootItem) :
    ∃ guids, Loot.markConditional protos player present item =
      { item with
        allowedGUIDs := guids
        isCounted := item.isCounted || Loot.listedConditional protos player item } := by
  unfold Loot.markConditional Loot.listedConditional
  cases opened : Loot.openTo protos player item with
  | false => exact ⟨item.allowedGUIDs, by simp⟩
  | true =>
    obtain ⟨guids, added⟩ : ∃ guids, (if present then item.addAllowedLooter player.guid else item) =
        { item with allowedGUIDs := guids } := by
      cases present with
      | false => exact ⟨item.allowedGUIDs, rfl⟩
      | true => exact addAllowedLooter_eq item player.guid
    refine ⟨guids, ?_⟩
    simp only [if_true, added, Bool.true_and]
    cases item.conditions.isEmpty <;> simp

theorem markConditional_fixed (protos : Prototypes) (player : Player) (present : Bool)
    (item : LootItem) : (Loot.markConditional protos player present item).fixed = item.fixed := by
  obtain ⟨guids, marked⟩ := markConditional_eq protos player present item
  rw [marked]
  rfl

theorem blockListed_fixed (player : Player) (fresh : List QuestItem) (j : Nat)
    (item : LootItem) : (blockListed player fresh j item).fixed = item.fixed := by
  unfold blockListed
  split <;> rfl

theorem mem_indices_addList {map : QuestItemMap} {player : Nat} {ql : List QuestItem}
    {x : Nat × List Nat} (here : x ∈ indices (addList map player ql)) :
    x ∈ indices map ∨ x = (player, ql.map QuestItem.index) := by
  unfold addList at here
  split at here
  · exact .inl here
  rcases mem_cons.mp here with first | later
  · exact .inr first
  · exact .inl later

variable {player : Player} {protos : Prototypes} {present : Bool}
  {quest ffa conditional : List QuestItem}

section
variable (listed : Listed protos player present before quest ffa conditional after)
include listed

theorem Listed.items_fixed :
    after.items.map LootItem.fixed = before.items.map LootItem.fixed := by
  rw [listed.result]
  simp only [map_map]
  apply map_congr_left
  intro item _
  exact markConditional_fixed protos player present item

theorem Listed.plain? {i : Nat} (here : before.items[i]? = some item) :
    ∃ now, after.items[i]? = some now ∧ now.fixed = item.fixed :=
  getElem?_of_map_fixed listed.items_fixed here

theorem Listed.wellFormed
    (formed : before.WellFormed) : after.WellFormed := by
  have size : after.items.length = before.items.length := by rw [listed.result]; simp
  have questSize : after.questItems.length = before.questItems.length := by
    rw [listed.result]
    simp
  refine ⟨by rw [size]; exact formed.few, ?_, ?_, ?_⟩
  · intro x here
    rw [size, questSize]
    rw [listed.result] at here
    rcases mem_indices_addList here with old | rfl
    · exact formed.quest x old
    refine ⟨listed.questListing.nodup, by simpa using listed.few, ?_⟩
    intro j mem
    obtain ⟨entry, there, rfl⟩ := mem_map.mp mem
    obtain ⟨item, present, _⟩ := listed.questListing.passes entry there
    exact (List.getElem?_eq_some_iff.mp present).1
  · intro x here
    have kept (i : Nat) (item : LootItem) (there : before.items[i]? = some item)
        (shared : item.freeforall = true) :
        ∃ now : LootItem, after.items[i]? = some now ∧ now.freeforall = true := by
      obtain ⟨now, still, fixed⟩ := listed.plain? there
      exact ⟨now, still, (LootItem.freeforall_of_fixed fixed).trans shared⟩
    rw [listed.result] at here
    rcases mem_indices_addList here with old | rfl
    · refine ⟨(formed.ffa x old).1, fun i mem => ?_⟩
      obtain ⟨item, there, shared⟩ := (formed.ffa x old).2 i mem
      exact kept i item there shared
    refine ⟨listed.ffaListing.nodup, fun i mem => ?_⟩
    obtain ⟨entry, there, rfl⟩ := mem_map.mp mem
    obtain ⟨item, present, passed⟩ := listed.ffaListing.passes entry there
    simp only [Loot.listedFFA, Bool.and_eq_true] at passed
    exact kept entry.index item present passed.1.2
  · intro x here
    have kept (i : Nat) (item : LootItem) (there : before.items[i]? = some item)
        (single : item.freeforall = false) (guarded : item.conditions.isEmpty = false) :
        ∃ now : LootItem, after.items[i]? = some now ∧ now.freeforall = false ∧
          now.conditions.isEmpty = false := by
      obtain ⟨now, still, fixed⟩ := listed.plain? there
      refine ⟨now, still, (LootItem.freeforall_of_fixed fixed).trans single, ?_⟩
      rw [LootItem.conditions_of_fixed fixed]
      exact guarded
    rw [listed.result] at here
    rcases mem_indices_addList here with old | rfl
    · refine ⟨(formed.conditional x old).1, fun i mem => ?_⟩
      obtain ⟨item, there, single, guarded⟩ := (formed.conditional x old).2 i mem
      exact kept i item there single guarded
    refine ⟨listed.conditionalListing.nodup, fun i mem => ?_⟩
    obtain ⟨entry, there, rfl⟩ := mem_map.mp mem
    obtain ⟨item, present, passed⟩ := listed.conditionalListing.passes entry there
    simp only [Loot.listedConditional, Loot.openTo, Bool.and_eq_true, Bool.not_eq_true'] at passed
    exact kept entry.index item present passed.1.1.2 passed.2

end

theorem mem_listedPlayers_addList {map : QuestItemMap} {player other : Nat}
    {ql : List QuestItem} (here : other ∈ (indices (addList map player ql)).map (·.1)) :
    other ∈ (indices map).map (·.1) ∨ other = player := by
  obtain ⟨x, mem, rfl⟩ := mem_map.mp here
  rcases mem_indices_addList mem with old | rfl
  · exact .inl (mem_map.mpr ⟨x, old, rfl⟩)
  · exact .inr rfl

theorem Listed.listedPlayers
    (listed : Listed protos player present before quest ffa conditional after) {other : Nat}
    (here : other ∈ after.listedPlayers) : other ∈ before.listedPlayers ∨ other = player.guid := by
  rw [listed.result] at here
  simp only [Loot.listedPlayers, map_append, mem_append] at here ⊢
  rcases here with (quest | ffa) | conditional
  · rcases mem_listedPlayers_addList quest with old | same
    · exact .inl (.inl (.inl old))
    · exact .inr same
  · rcases mem_listedPlayers_addList ffa with old | same
    · exact .inl (.inl (.inr old))
    · exact .inr same
  rcases mem_listedPlayers_addList conditional with old | same
  · exact .inl (.inr old)
  · exact .inr same

/-- The plain items that `AddItem` counts. -/
def countedAtOnce (item : LootItem) : Bool := item.conditions.isEmpty && !item.freeforall

/-- A loot that no player has a list of yet. -/
structure Loot.Fresh (loot : Loot) : Prop where
  few : loot.items.length ≤ maxNrLootItems
  quest : loot.playerQuestItems = []
  ffa : loot.playerFFAItems = []
  conditional : loot.playerNonQuestNonFFAConditionalItems = []
  items : ∀ item ∈ loot.items, item.isLooted = false ∧ item.isCounted = false
  questItems : ∀ item ∈ loot.questItems, item.isLooted = false ∧ item.isBlocked = false
  counted : loot.unlootedCount = UInt8.ofNat (loot.items.countP countedAtOnce)

theorem pushStacks_fresh (proto : ItemPrototype) (item : LootStoreItem) (left count : Nat)
    (loot : Loot) (fresh : loot.Fresh) : (Loot.pushStacks proto item left count loot).Fresh := by
  induction left generalizing count loot with
  | zero => exact fresh
  | succ left ih =>
    unfold Loot.pushStacks
    split
    · split
      · apply ih
        refine ⟨fresh.few, fresh.quest, fresh.ffa, fresh.conditional, fresh.items, ?_,
          fresh.counted⟩
        intro other here
        rcases mem_append.mp here with old | new
        · exact fresh.questItems other old
        · obtain rfl := mem_singleton.mp new
          exact ⟨rfl, rfl⟩
      · exact fresh
    · split
      · rename_i room
        apply ih
        refine ⟨?_, fresh.quest, fresh.ffa, fresh.conditional, ?_, fresh.questItems, ?_⟩
        · simp only [length_append, length_singleton]
          exact room
        · intro other here
          rcases mem_append.mp here with old | new
          · exact fresh.items other old
          · obtain rfl := mem_singleton.mp new
            exact ⟨rfl, rfl⟩
        · rw [countP_append, countP_singleton, UInt8.ofNat_add, ← fresh.counted]
          have counts : countedAtOnce (LootItem.ofStore proto item (min count proto.maxStackSize))
              = (item.conditions.isEmpty && !proto.partyLoot) := rfl
          rw [counts]
          split
          · rfl
          · exact (UInt8.add_zero _).symm
      · exact fresh

theorem Fill.process_fresh : (fill.process gold).Fresh := by
  have step (rolled : List Rolled) (loot : Loot) (fresh : loot.Fresh) :
      (rolled.foldl (Loot.addItem fill.protos) loot).Fresh := by
    induction rolled generalizing loot with
    | nil => exact fresh
    | cons one rolled ih =>
      apply ih
      unfold Loot.addItem
      split
      · exact fresh
      · exact pushStacks_fresh _ _ _ _ loot fresh
  exact step fill.rolled _ ⟨by simp [Loot.empty], rfl, rfl, rfl, by simp [Loot.empty],
    by simp [Loot.empty], rfl⟩

theorem Loot.Fresh.wellFormed {loot : Loot} (fresh : loot.Fresh) : loot.WellFormed :=
  ⟨fresh.few, by simp [fresh.quest, indices], by simp [fresh.ffa, indices],
    by simp [fresh.conditional, indices]⟩

theorem Loot.Fresh.unlisted {loot : Loot} (fresh : loot.Fresh) : loot.listedPlayers = [] := by
  simp [Loot.listedPlayers, fresh.quest, fresh.ffa, fresh.conditional, indices]

namespace Fill

/-- The loot that each looter finds when his turn comes. -/
def turnsFrom (fill : Fill) : Loot × List Event → List (Player × Bool) → List (Loot × Player)
  | _, [] => []
  | filled, looter :: rest =>
    (filled.1, looter.1) ::
      fill.turnsFrom (Loot.fillNotNormalLootFor fill.protos fill.canStore filled looter) rest

/-- The loot before the first looter's turn. -/
def prepared (fill : Fill) (gold : Nat) : Loot :=
  match fill.group with
  | none => fill.process gold
  | some _ => { fill.process gold with roundRobinPlayer := fill.lootOwner.guid }

def turns (fill : Fill) (gold : Nat) : List (Loot × Player) :=
  fill.turnsFrom (fill.prepared gold, []) fill.looters

theorem looters_distinct : (fill.looters.map (·.1.guid)).Nodup := by
  unfold looters
  split
  · simp
  · rename_i party _
    exact party.distinct

theorem prepared_fresh : (fill.prepared gold).Fresh := by
  have fresh := fill.process_fresh gold
  unfold prepared
  split
  · exact fresh
  · exact ⟨fresh.few, fresh.quest, fresh.ffa, fresh.conditional, fresh.items, fresh.questItems,
      fresh.counted⟩

/-- What `FillNotNormalLootFor` has checked of a slot before it stores from it. -/
def CurrencySlot (protos : Prototypes) (player : Player) (loot : Loot) (slot : Nat) : Prop :=
  slot < loot.items.length → ∃ item, loot.items[slot]? = some item ∧
    Loot.listedFFA protos player item = true

theorem storeCurrency_cases (protos : Prototypes) (canStore : Nat → Nat → Bool) (player : Player)
    (filled : Loot × List Event) (i : Nat) :
    Loot.storeCurrency protos canStore player filled i = filled ∨
      (CurrencySlot protos player filled.1 i ∧
        Loot.storeCurrency protos canStore player filled i =
          ((filled.1.storeLootItem player.guid i (canStore player.guid i)).1,
            filled.2 ++ (filled.1.storeLootItem player.guid i (canStore player.guid i)).2)) := by
  unfold Loot.storeCurrency
  dsimp only
  split
  · exact .inl rfl
  rename_i item here
  split
  · rename_i checked
    refine .inr ⟨fun inside => ⟨item, ?_, ?_⟩, rfl⟩
    · rw [if_pos inside] at here
      exact here
    · rw [Bool.and_eq_true] at checked
      exact checked.1
  · exact .inl rfl

variable {P : Loot × List Event → Prop} {Q : Player → Loot × List Event → Prop}

theorem turn_rule (protos : Prototypes) (canStore : Nat → Nat → Bool) (looter : Player × Bool)
    (filled : Loot × List Event)
    (lists : Q looter.1 (Loot.fillLists protos filled.1 looter.1 looter.2, filled.2))
    (store : ∀ now slot fits, Q looter.1 now → CurrencySlot protos looter.1 now.1 slot →
      Q looter.1 ((now.1.storeLootItem looter.1.guid slot fits).1,
        now.2 ++ (now.1.storeLootItem looter.1.guid slot fits).2)) :
    Q looter.1 (Loot.fillNotNormalLootFor protos canStore filled looter) := by
  have loop (slots : List Nat) (now : Loot × List Event) (holds : Q looter.1 now) :
      Q looter.1 (slots.foldl (Loot.storeCurrency protos canStore looter.1) now) := by
    induction slots generalizing now with
    | nil => exact holds
    | cons slot slots ih =>
      apply ih
      rcases storeCurrency_cases protos canStore looter.1 now slot with same | ⟨checked, next⟩
      · rw [same]
        exact holds
      · rw [next]
        exact store now slot _ holds checked
  unfold Loot.fillNotNormalLootFor
  split
  · exact loop _ _ lists
  · exact lists

/-- The induction over the whole filling: `P` holds between the turns, `Q` inside the turn of
a player. -/
theorem fillLoot_rule
    (start : ∀ loot : Loot, loot.Fresh → P (loot, []))
    (lists : ∀ filled looter, P filled → filled.1.WellFormed → looter ∈ fill.looters →
      (filled.1, looter.1) ∈ fill.turns gold → looter.1.guid ∉ filled.1.listedPlayers →
      ∀ quest ffa conditional after,
        Listed fill.protos looter.1 looter.2 filled.1 quest ffa conditional after →
        Q looter.1 (after, filled.2))
    (store : ∀ now player slot fits, Q player now → now.1.WellFormed →
      CurrencySlot fill.protos player now.1 slot → Q player ((now.1.storeLootItem player.guid slot fits).1,
        now.2 ++ (now.1.storeLootItem player.guid slot fits).2))
    (leave : ∀ player now, Q player now → P now)
    (mark : ∀ threshold (now : Loot × List Event), P now →
      P (Loot.markUnderthreshold fill.protos threshold now.1, now.2)) :
    P (fill.fillLoot gold) := by
  -- The looters still to come have no lists yet, so each gets the lists made in his turn.
  have loop (looters : List (Player × Bool)) (filled : Loot × List Event)
      (holds : P filled) (formed : filled.1.WellFormed)
      (distinct : (looters.map (·.1.guid)).Nodup)
      (unlisted : ∀ looter ∈ looters, looter.1.guid ∉ filled.1.listedPlayers)
      (among : ∀ looter ∈ looters, looter ∈ fill.looters)
      (turns : ∀ turn ∈ fill.turnsFrom filled looters, turn ∈ fill.turns gold) :
      P (looters.foldl (Loot.fillNotNormalLootFor fill.protos fill.canStore) filled) := by
    induction looters generalizing filled with
    | nil => exact holds
    | cons looter looters ih =>
      rw [map_cons, nodup_cons] at distinct
      obtain ⟨quest, ffa, conditional, listed⟩ := fillLists_spec fill.protos
        looter.2 formed.few (unlisted looter mem_cons_self)
      have inside := lists filled looter holds formed (among looter mem_cons_self)
        (turns _ mem_cons_self) (unlisted looter mem_cons_self) quest ffa conditional
        _ listed
      have turn := turn_rule
        (Q := fun player now => Q player now ∧ now.1.WellFormed ∧
          ∀ other ∈ now.1.listedPlayers, other ∈ filled.1.listedPlayers ∨ other = player.guid)
        fill.protos fill.canStore looter filled
        ⟨inside, listed.wellFormed formed, fun _ here => listed.listedPlayers here⟩
        (fun now slot fits both checked => by
          have shape := Loot.sameShape_storeLootItem now.1 looter.1.guid slot fits
          refine ⟨store now looter.1 slot fits both.1 both.2.1 checked, shape.wellFormed both.2.1, ?_⟩
          rw [shape.listedPlayers]
          exact both.2.2)
      refine ih _ (leave looter.1 _ turn.1) turn.2.1 distinct.2 ?_
        (fun other later => among other (mem_cons_of_mem looter later))
        (fun turn later => turns turn (mem_cons_of_mem _ later))
      intro other later here
      rcases turn.2.2 _ here with old | same
      · exact unlisted other (mem_cons_of_mem looter later) old
      · exact distinct.1 (mem_map.mpr ⟨other, later, same⟩)
  have whole := loop fill.looters (fill.prepared gold, []) (start _ (fill.prepared_fresh gold))
    (fill.prepared_fresh gold).wellFormed fill.looters_distinct
    (fun looter _ => by simp [(fill.prepared_fresh gold).unlisted]) (fun _ here => here)
    (fun _ here => here)
  unfold fillLoot
  unfold looters prepared at whole
  cases group : fill.group with
  | none =>
    simp only [group] at whole
    exact whole
  | some party =>
    simp only [group] at whole
    exact mark party.lootThreshold _ whole

end Fill

theorem sameShape_markUnderthreshold (protos : Prototypes) (threshold : Nat) (loot : Loot) :
    loot.SameShape (Loot.markUnderthreshold protos threshold loot) := by
  refine ⟨?_, rfl, rfl, rfl, rfl⟩
  simp only [Loot.markUnderthreshold, map_map]
  apply map_congr_left
  intro item _
  simp only [Function.comp_apply]
  split <;> rfl

theorem Fill.fillLoot_wellFormed :
    (fill.fillLoot gold).1.WellFormed := by
  apply Fill.fillLoot_rule (P := fun filled => filled.1.WellFormed)
    (Q := fun _ now => now.1.WellFormed) fill gold
  · exact fun loot fresh => fresh.wellFormed
  · exact fun filled looter _ formed _ _ _ quest ffa conditional after listed =>
      listed.wellFormed formed
  · exact fun now player slot fits formed _ _ =>
      (Loot.sameShape_storeLootItem now.1 player.guid slot fits).wellFormed formed
  · exact fun _ _ formed => formed
  · exact fun threshold now formed =>
      (sameShape_markUnderthreshold fill.protos threshold now.1).wellFormed formed

end OpenWoW.Looting
