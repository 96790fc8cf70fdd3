import Mathlib.Data.List.Nodup
import OpenWoW.AuctionSteps
import OpenWoW.Lib.Keyed

/-! What a seller loses and what the auction house gets when an auction is opened. -/
namespace OpenWoW.Auction

open List

def totalOf (entry : Nat) (items : List Item) : Nat :=
  (items.map fun item => if item.entry = entry then item.count else 0).sum

/-- The stacks of a player are different objects and their counts are `uint32` fields. -/
structure Stacked (items : List Item) : Prop where
  unique : (items.map (·.guid)).Nodup
  narrow : ∀ item ∈ items, item.count < 2 ^ 32

structure ItemsPreserved (rules : Rules) (w : World) (player : Nat) (r : SellRequest) : Prop where
  accepted : ∀ auction,
    .commandResult (some auction) .sellItem .ok ∈ (handleAuctionSellItem rules w player r).2 →
    ∃ item, (handleAuctionSellItem rules w player r).1.aItems auction.itemGuidLow = some item ∧
      ∀ entry, totalOf entry ((handleAuctionSellItem rules w player r).1.inventory player) +
        totalOf entry [item] = totalOf entry (w.inventory player)
  rejected :
    (∀ auction,
      .commandResult (some auction) .sellItem .ok ∉ (handleAuctionSellItem rules w player r).2) →
    (handleAuctionSellItem rules w player r).1.inventory = w.inventory ∧
    (handleAuctionSellItem rules w player r).1.aItems = w.aItems ∧
    (handleAuctionSellItem rules w player r).1.auctions = w.auctions

def WithinStacks (w : World) (player : Nat) (r : SellRequest) (sold : Item) : Prop :=
  ∀ pair ∈ r.items, ∀ item ∈ getItemByGuid (w.inventory player) pair.1,
    item.entry = sold.entry ∧ Keyed.demand r.items pair.1 ≤ item.count

instance (w : World) (player : Nat) (r : SellRequest) (sold : Item) :
    Decidable (WithinStacks w player r sold) :=
  inferInstanceAs (Decidable (∀ pair ∈ r.items, ∀ item ∈ getItemByGuid (w.inventory player) pair.1,
    item.entry = sold.entry ∧ Keyed.demand r.items pair.1 ≤ item.count))

section

/-- One turn of the last loop for the object it is about. -/
def takeFrom (object : Held) (count : Nat) : Held :=
  if object.1.count = count then (object.1, false)
  else ({ object.1 with count := toUInt32 (object.1.count - count) }, object.2)

theorem takeFrom_proto (object : Held) (count : Nat) :
    (takeFrom object count).1.guid = object.1.guid ∧
      (takeFrom object count).1.proto = object.1.proto := by
  unfold takeFrom
  split
  · exact ⟨rfl, rfl⟩
  · exact ⟨rfl, rfl⟩

theorem foldl_takeFrom_proto (counts : List Nat) (object : Held) :
    (counts.foldl takeFrom object).1.proto = object.1.proto := by
  induction counts generalizing object with
  | nil => rfl
  | cons count counts ih => exact (ih _).trans (takeFrom_proto object count).2

theorem takeFromStack_eq (guid count : Nat) (objects : List Held) :
    takeFromStack guid count objects =
      objects.map fun object => if object.1.guid = guid then takeFrom object count else object :=
  rfl

theorem takeFromStacks_eq (pairs : List (Nat × Nat)) (objects : List Held) :
    takeFromStacks pairs objects = objects.map fun object =>
      ((pairs.filter (·.1 = object.1.guid)).map (·.2)).foldl takeFrom object := by
  induction pairs generalizing objects with
  | nil => simp [takeFromStacks]
  | cons pair pairs ih =>
    have step : takeFromStacks (pair :: pairs) objects =
        takeFromStacks pairs (takeFromStack pair.1 pair.2 objects) := rfl
    rw [step, ih, takeFromStack_eq, map_map]
    apply map_congr_left
    intro object _
    by_cases same : object.1.guid = pair.1
    · rw [Function.comp_apply, if_pos same, (takeFrom_proto object pair.2).1, same]
      simp
    · simp [same, Ne.symm same]

/-- What is left of a stack in the inventory. -/
def kept (item : Item) (counts : List Nat) : Nat :=
  if (counts.foldl takeFrom (item, true)).2 then (counts.foldl takeFrom (item, true)).1.count
  else 0

theorem foldl_takeFrom_gone (counts : List Nat) (item : Item) :
    (counts.foldl takeFrom (item, false)).2 = false := by
  induction counts generalizing item with
  | nil => rfl
  | cons count counts ih =>
    rw [foldl_cons, takeFrom]
    split
    · exact ih item
    · exact ih _

variable {counts : List Nat}

theorem foldl_takeFrom_count (item : Item) (narrow : item.count < 2 ^ 32)
    (held : (counts.foldl takeFrom (item, true)).2 = true) :
    (counts.foldl takeFrom (item, true)).1.count = toUInt32 (item.count - (counts.sum : Nat)) := by
  induction counts generalizing item with
  | nil =>
    have whole := toUInt32_of_lt item.count narrow
    simp [whole]
  | cons count counts ih =>
    rw [foldl_cons, takeFrom] at held ⊢
    split at held
    · rw [foldl_takeFrom_gone] at held
      cases held
    next other =>
    rw [if_neg other]
    have less : toUInt32 (item.count - count) < 2 ^ 32 := by
      unfold toUInt32
      omega
    rw [ih _ less held, sum_cons]
    unfold toUInt32
    push_cast
    omega

theorem kept_of_le (item : Item) (narrow : item.count < 2 ^ 32)
    (positive : ∀ count ∈ counts, 0 < count) (enough : counts.sum ≤ item.count) :
    kept item counts + counts.sum = item.count := by
  induction counts generalizing item with
  | nil => simp [kept]
  | cons count counts ih =>
    rw [sum_cons] at enough ⊢
    have later : ∀ c ∈ counts, 0 < c := fun c there => positive c (mem_cons_of_mem _ there)
    by_cases last : item.count = count
    · have none : counts.sum = 0 := by omega
      have gone : kept item (count :: counts) = 0 := by
        unfold kept
        rw [foldl_cons, takeFrom, if_pos last, foldl_takeFrom_gone]
        rfl
      omega
    · have rest : toUInt32 (item.count - count) = item.count - count := by
        unfold toUInt32
        omega
      have shrunk : kept item (count :: counts) =
          kept { item with count := item.count - count } counts := by
        unfold kept
        rw [foldl_cons, takeFrom, if_neg last]
        rw [rest]
      have := ih { item with count := item.count - count } (by dsimp only; omega) later
        (by dsimp only; omega)
      dsimp only at this
      rw [shrunk]
      omega

theorem kept_of_lt {item : Item} (narrow : item.count < 2 ^ 32)
    (small : counts.sum < 2 ^ 32) (short : item.count < counts.sum) :
    item.count < kept item counts + counts.sum := by
  unfold kept
  split
  · rename_i held
    rw [foldl_takeFrom_count item narrow held]
    unfold toUInt32
    omega
  · omega

theorem count_le_kept {item : Item} (narrow : item.count < 2 ^ 32)
    (positive : ∀ count ∈ counts, 0 < count) (small : counts.sum < 2 ^ 32) :
    item.count ≤ kept item counts + counts.sum ∧
      (kept item counts + counts.sum = item.count ↔ counts.sum ≤ item.count) := by
  by_cases enough : counts.sum ≤ item.count
  · have equal := kept_of_le item narrow positive enough
    omega
  · have less := kept_of_lt narrow small (by omega)
    omega

end

theorem totalOf_stillHeld (entry : Nat) (objects : List Held) :
    totalOf entry (stillHeld objects) =
      (objects.map fun object =>
        if object.1.entry = entry then (if object.2 then object.1.count else 0) else 0).sum := by
  induction objects with
  | nil => rfl
  | cons object objects ih =>
    unfold totalOf stillHeld at ih ⊢
    rw [map_map] at ih
    rcases object with ⟨item, _ | _⟩
    · simp [ih]
    · simp [ih]

def countsOf (pairs : List (Nat × Nat)) (guid : Nat) : List Nat :=
  (pairs.filter (·.1 = guid)).map (·.2)

theorem totalOf_takeFromStacks (entry : Nat) (pairs : List (Nat × Nat)) (items : List Item) :
    totalOf entry (stillHeld (takeFromStacks pairs (items.map (·, true)))) =
      (items.map fun item =>
        if item.entry = entry then kept item (countsOf pairs item.guid) else 0).sum := by
  rw [totalOf_stillHeld, takeFromStacks_eq, map_map, map_map]
  congr 1
  apply map_congr_left
  intro item _
  have proto := foldl_takeFrom_proto (countsOf pairs item.guid) (item, true)
  change (if Item.entry (List.foldl takeFrom (item, true) (countsOf pairs item.guid)).1 = entry
    then kept item (countsOf pairs item.guid) else 0) = _
  rw [Item.entry, proto]
  rfl

theorem getItemByGuid_some {items : List Item} {guid : Nat} {item : Item}
    (found : getItemByGuid items guid = some item) : item ∈ items ∧ item.guid = guid := by
  exact ⟨mem_of_find?_eq_some found, by simpa using find?_some found⟩

theorem checkItems_ok {w : World} {player : Nat} {pairs : List (Nat × Nat)} (items : List Item)
    (checked : checkItems w player pairs = .ok items) :
    pairs.map (fun pair => getItemByGuid (w.inventory player) pair.1) = items.map some := by
  induction pairs generalizing items with
  | nil =>
    cases checked
    rfl
  | cons pair pairs ih =>
    unfold checkItems at checked
    split at checked
    · cases checked
    next item found =>
    split at checked
    · cases checked
    cases tail : checkItems w player pairs with
    | error error =>
      rw [tail] at checked
      cases checked
    | ok rest =>
      rw [tail] at checked
      cases checked
      rw [map_cons, map_cons, found, ih rest tail]

section

variable (rules : Rules) (w : World) (player : Nat) (r : SellRequest) (faction houseId : Nat)
  (item : Item) (items : List Item)

section
variable (sale : Sale rules w player r faction houseId item items)
include sale

theorem Sale.asked :
    (r.items.map (·.2)).sum < 2 ^ 32 := by
  have short := sale.short
  have bound : (r.items.map (·.2)).sum ≤ (r.items.map (·.2)).length • 1000 := by
    apply sum_le_card_nsmul
    intro count here
    obtain ⟨pair, there, rfl⟩ := mem_map.mp here
    exact (sale.valid pair there).2.2
  rw [length_map, Nat.nsmul_eq_mul] at bound
  unfold maxAuctionItems at short
  omega

theorem Sale.cloneItem_count :
    (cloneItem w r item).count = (r.items.map (·.2)).sum := by
  have final : r.finalCount = (r.items.map (·.2)).sum := toUInt32_of_lt _ sale.asked
  have limit := sale.limits item mem_cons_self
  change min r.finalCount item.proto.getMaxStackSize = _
  omega

theorem Sale.countsOf_pos {guid : Nat} :
    ∀ count ∈ countsOf r.items guid, 0 < count := by
  intro count here
  obtain ⟨pair, there, rfl⟩ := mem_map.mp here
  have := sale.valid pair (mem_of_mem_filter there)
  omega

theorem Sale.demand_lt (guid : Nat) :
    (countsOf r.items guid).sum < 2 ^ 32 := by
  have sub : (countsOf r.items guid).sum ≤ (r.items.map (·.2)).sum :=
    List.Sublist.sum_le_sum (List.Sublist.map _ filter_sublist) (fun _ _ => Nat.zero_le _)
  have := sale.asked
  omega

end

def namedStack (guid : Nat) : Item := (getItemByGuid (w.inventory player) guid).getD item

theorem Sale.namedStack_found (sale : Sale rules w player r faction houseId item items)
    (pair : Nat × Nat) (here : pair ∈ r.items) :
    getItemByGuid (w.inventory player) pair.1 = some (namedStack w player item pair.1) := by
  have found : getItemByGuid (w.inventory player) pair.1 ∈ (item :: items).map some := by
    rw [← checkItems_ok _ sale.checked]
    exact mem_map.mpr ⟨pair, here, rfl⟩
  obtain ⟨stack, _, there⟩ := mem_map.mp found
  rw [namedStack, ← there]
  rfl

def askedOf (entry : Nat) : Nat :=
  (r.items.map fun pair =>
    if (namedStack w player item pair.1).entry = entry then pair.2 else 0).sum

theorem Sale.totalOf_left (sale : Sale rules w player r faction houseId item items)
    (stacked : Stacked (w.inventory player)) (entry : Nat) :
    totalOf entry (w.inventory player) ≤
      totalOf entry (stillHeld (takeFromStacks r.items ((w.inventory player).map (·, true)))) +
        askedOf w player r item entry ∧
    (totalOf entry (stillHeld (takeFromStacks r.items ((w.inventory player).map (·, true)))) +
        askedOf w player r item entry = totalOf entry (w.inventory player) ↔
      ∀ i ∈ w.inventory player, i.entry = entry → Keyed.demand r.items i.guid ≤ i.count) := by
  have there : ∀ pair ∈ r.items, namedStack w player item pair.1 ∈ w.inventory player ∧
      (namedStack w player item pair.1).guid = pair.1 :=
    fun pair here => getItemByGuid_some (sale.namedStack_found _ _ _ _ _ _ _ _ pair here)
  have spread := Keyed.sum_demand (·.guid) stacked.unique
    (fun i => i.entry = entry) (namedStack w player item) there
  have one := fun i here => count_le_kept (stacked.narrow i here)
    (sale.countsOf_pos _ _ _ _ _ _ _ _) (sale.demand_lt _ _ _ _ _ _ _ _ i.guid)
  have le : ∀ i ∈ w.inventory player, (if i.entry = entry then i.count else 0) ≤
      (if i.entry = entry then kept i (countsOf r.items i.guid) else 0) +
        (if i.entry = entry then Keyed.demand r.items i.guid else 0) := by
    intro i here
    have := (one i here).1
    split
    · exact this
    · exact Nat.le_refl 0
  have after := totalOf_takeFromStacks entry r.items (w.inventory player)
  rw [after, askedOf, ← spread, ← sum_map_add, totalOf]
  refine ⟨sum_le_sum le, ?_, ?_⟩
  · intro equal i here same
    have exact' := Keyed.eq_of_sum_le _ _ le (Nat.le_of_eq equal) i here
    rw [if_pos same, if_pos same, if_pos same] at exact'
    exact (one i here).2.mp exact'.symm
  · intro enough
    congr 1
    apply map_congr_left
    intro i here
    split
    · next same => exact (one i here).2.mpr (enough i here same)
    · rfl

theorem Sale.totalOf_cloneItem (sale : Sale rules w player r faction houseId item items)
    (entry : Nat) :
    totalOf entry [cloneItem w r item] =
      if item.entry = entry then (r.items.map (·.2)).sum else 0 := by
  have same : (cloneItem w r item).entry = item.entry := rfl
  simp [totalOf, same, sale.cloneItem_count]

theorem askedOf_eq (one : ∀ pair ∈ r.items, (namedStack w player item pair.1).entry = item.entry)
    (entry : Nat) :
    askedOf w player r item entry = if item.entry = entry then (r.items.map (·.2)).sum else 0 := by
  unfold askedOf
  by_cases same : item.entry = entry
  · rw [if_pos same]
    congr 1
    apply map_congr_left
    intro pair here
    rw [if_pos ((one pair here).trans same)]
  · rw [if_neg same]
    apply sum_eq_zero
    intro count here
    obtain ⟨pair, there, rfl⟩ := mem_map.mp here
    rw [if_neg (fun equal => same ((one pair there).symm.trans equal))]

theorem Sale.one_entry (sale : Sale rules w player r faction houseId item items)
    (all : (r.items.map (·.2)).sum ≤ askedOf w player r item item.entry) :
    ∀ pair ∈ r.items, (namedStack w player item pair.1).entry = item.entry := by
  intro pair here
  have equal := Keyed.eq_of_sum_le
    (fun pair => if (namedStack w player item pair.1).entry = item.entry then pair.2 else 0)
    (·.2) (fun pair _ => by split <;> omega) all pair here
  have := sale.valid pair here
  by_contra other
  rw [if_neg other] at equal
  omega

/-- The slow path keeps every total just if the request stays within the stacks. -/
theorem Sale.totals_iff (sale : Sale rules w player r faction houseId item items)
    (stacked : Stacked (w.inventory player)) :
    (∀ entry,
      totalOf entry (stillHeld (takeFromStacks r.items ((w.inventory player).map (·, true)))) +
        totalOf entry [cloneItem w r item] = totalOf entry (w.inventory player)) ↔
    WithinStacks w player r item := by
  have left := sale.totalOf_left rules w player r faction houseId item items stacked
  have found := sale.namedStack_found rules w player r faction houseId item items
  constructor
  · intro kept pair here stack there
    have same : stack = namedStack w player item pair.1 := by
      rw [found pair here] at there
      exact (Option.some.inj there).symm
    have total := kept item.entry
    rw [sale.totalOf_cloneItem, if_pos rfl] at total
    have most := (left item.entry).1
    have one := sale.one_entry rules w player r faction houseId item items (by omega) 
    have asked := askedOf_eq w player r item one item.entry
    rw [if_pos rfl] at asked
    have entry := one pair here
    obtain ⟨mem, guid⟩ := getItemByGuid_some (found pair here)
    have enough := (left item.entry).2.mp (by omega) _ mem entry
    rw [guid] at enough
    rw [same]
    exact ⟨entry, enough⟩
  · intro within entry
    have one : ∀ pair ∈ r.items, (namedStack w player item pair.1).entry = item.entry :=
      fun pair here => (within pair here _ (found pair here)).1
    rw [sale.totalOf_cloneItem, ← askedOf_eq w player r item one entry]
    apply (left entry).2.mpr
    intro i here _
    by_cases named : ∃ pair ∈ r.items, pair.1 = i.guid
    · obtain ⟨pair, asked, guid⟩ := named
      obtain ⟨mem, guid'⟩ := getItemByGuid_some (found pair asked)
      have same : namedStack w player item pair.1 = i :=
        inj_on_of_nodup_map stacked.unique mem here (guid'.trans guid)
      have enough := (within pair asked _ (found pair asked)).2
      rw [guid] at enough same
      rw [same] at enough
      exact enough
    · have none : Keyed.demand r.items i.guid = 0 := by
        apply sum_eq_zero
        intro count there
        obtain ⟨pair, asked, _⟩ := mem_map.mp there
        have := mem_filter.mp asked
        exact absurd ⟨pair, this.1, by simpa using this.2⟩ named
      omega

theorem totalOf_filter (entry : Nat) {held : List Item} (unique : (held.map (·.guid)).Nodup)
    (here : item ∈ held) :
    totalOf entry (held.filter fun i => i.guid ≠ item.guid) + totalOf entry [item] =
      totalOf entry held := by
  have single := Keyed.sum_single (·.guid) unique item here
    (fun i => if i.entry = entry then i.count else 0)
  have others : totalOf entry (held.filter fun i => i.guid ≠ item.guid) =
      (held.map fun i =>
        if i.guid = item.guid then 0 else if i.entry = entry then i.count else 0).sum := by
    clear single here unique
    unfold totalOf
    induction held with
    | nil => rfl
    | cons i held ih =>
      by_cases same : i.guid = item.guid
      · simpa [same] using ih
      · simpa [same] using ih
  have one : totalOf entry [item] = if item.entry = entry then item.count else 0 := by
    simp [totalOf]
  rw [others, one, ← single, ← sum_map_add, totalOf]
  congr 1
  apply map_congr_left
  intro i _
  split
  · omega
  · omega

end

theorem itemsPreserved_of_silent {rules : Rules} {w : World} {player : Nat} {r : SellRequest}
    {out : List Event} (silent : Silent out)
    (result : handleAuctionSellItem rules w player r = (w, out)) :
    ItemsPreserved rules w player r := by
  refine ⟨?_, ?_⟩
  · intro auction ok
    rw [result] at ok
    exact absurd ok (not_ok_of_silent _ _ silent)
  · intro _
    rw [result]
    exact ⟨rfl, rfl, rfl⟩

theorem itemsPreserved_openAuction_iff {rules : Rules} {w w₁ : World} {player : Nat}
    {r : SellRequest} {faction houseId deposit : Nat} {sold : Item} {left : List Item}
    (result : handleAuctionSellItem rules w player r =
      openAuction rules w₁ player r faction houseId deposit sold left) :
    ItemsPreserved rules w player r ↔
      ∀ entry, totalOf entry left + totalOf entry [sold] = totalOf entry (w.inventory player) := by
  have answer : .commandResult (some (newAuction rules w₁ player r houseId deposit sold)) .sellItem
      .ok ∈ (handleAuctionSellItem rules w player r).2 := by
    simp [result, openAuction]
  have stored : (handleAuctionSellItem rules w player r).1.aItems sold.guid = some sold := by
    rw [result, aItems_openAuction, if_pos rfl]
  have seller : (handleAuctionSellItem rules w player r).1.inventory player = left := by
    rw [result, inventory_openAuction, if_pos rfl]
  constructor
  · intro preserved
    obtain ⟨item, there, totals⟩ := preserved.accepted _ answer
    have same : sold = item := Option.some.inj (stored.symm.trans there)
    rw [seller, ← same] at totals
    exact totals
  · intro totals
    refine ⟨?_, fun refused => absurd answer (refused _)⟩
    intro auction ok
    have same : auction = newAuction rules w₁ player r houseId deposit sold := by
      simpa [result, openAuction] using ok
    refine ⟨sold, ?_, ?_⟩
    · rw [same]
      exact stored
    · rw [seller]
      exact totals

/-- A request to sell keeps the number of items of every entry if and only if it is refused
or stays within the stacks it names. -/
theorem itemsPreserved_iff (rules : Rules) (w : World) (player : Nat) (r : SellRequest)
    (stacked : Stacked (w.inventory player)) :
    ItemsPreserved rules w player r ↔
      ∀ faction houseId item, checkSale rules w player r = .ok (faction, houseId, item) →
        r.cloned = true → WithinStacks w player r item := by
  rcases checkSale_cases rules w player r with
    ⟨out, check, silent⟩ | ⟨faction, houseId, item, items, check, sale⟩
  · have result : handleAuctionSellItem rules w player r = (w, out) := by
      rw [handleAuctionSellItem, check]
    refine iff_of_true (itemsPreserved_of_silent silent result) ?_
    intro faction houseId item ok
    rw [check] at ok
    cases ok
  have only : (∀ faction' houseId' item', checkSale rules w player r = .ok (faction', houseId', item') →
      r.cloned = true → WithinStacks w player r item') ↔
      (r.cloned = true → WithinStacks w player r item) := by
    refine ⟨fun all => all faction houseId item check, ?_⟩
    intro within faction' houseId' item' ok
    rw [check] at ok
    cases ok
    exact within
  rw [only]
  by_cases whole : r.items = [(item.guid, item.count)]
  · -- the whole stack moves to the auction house
    have result := itemsPreserved_openAuction_iff
      (by rw [handleAuctionSellItem, check]; exact if_pos whole)
    have first := checkItems_ok _ sale.checked
    rw [whole] at first
    have here := (getItemByGuid_some (List.cons.inj first).1).1
    refine iff_of_true (result.mpr fun entry => totalOf_filter item entry stacked.unique here) ?_
    intro _ pair named stack there
    rw [whole, mem_singleton] at named
    subst named
    have same : item = stack := Option.some.inj ((List.cons.inj first).1.symm.trans there)
    subst same
    refine ⟨rfl, ?_⟩
    rw [whole]
    simp [Keyed.demand]
  by_cases cloned : r.cloned = true
  · have result := itemsPreserved_openAuction_iff
      (by rw [handleAuctionSellItem, check]; exact (if_neg whole).trans (if_neg (by simpa using cloned)))
    rw [result, sale.totals_iff rules w player r faction houseId item items stacked]
    exact ⟨fun within _ => within, fun within => within cloned⟩
  have result : handleAuctionSellItem rules w player r =
      (w, [.commandResult none .sellItem .databaseError]) := by
    rw [handleAuctionSellItem, check]
    exact (if_neg whole).trans (if_pos cloned)
  exact iff_of_true (itemsPreserved_of_silent
    (.inr ⟨_, _, _, rfl, by decide⟩) result) (fun yes => absurd yes cloned)

theorem plainWorld_stacked : Stacked (plainWorld.inventory 1) := by
  refine ⟨?_, ?_⟩
  · decide
  · decide

/-- Two pairs that share one stack of ten. -/
theorem split_stack_itemsPreserved :
    ItemsPreserved plainRules plainWorld 1 (plainSale [(5, 4), (5, 6)]) := by
  refine (itemsPreserved_iff plainRules plainWorld 1 _ plainWorld_stacked).mpr ?_
  intro faction houseId item check _
  cases check
  decide

/-- A stack of ten that is named twice with ten pieces makes an auction of twenty. -/
theorem stack_twice_not_itemsPreserved :
    ¬ ItemsPreserved plainRules plainWorld 1 (plainSale [(5, 10), (5, 10)]) := by
  intro preserved
  obtain ⟨item, stored, totals⟩ := preserved.accepted _ (mem_cons_of_mem _ mem_cons_self)
  have count : item.count = 20 := by
    cases stored
    rfl
  have entry : item.entry = 2589 := by
    cases stored
    rfl
  have total := totals 2589
  simp only [totalOf, map_cons, map_nil, sum_cons, sum_nil, entry, count, if_true] at total
  revert total
  decide +kernel

end OpenWoW.Auction
