import OpenWoW.Belongings

/-! What `DestroyItemCount` takes, in numbers. -/
namespace OpenWoW.Quests

open List Option Function

open Storage

/-- What may be taken of a stack. -/
def loose (entry : Nat) (item : StoredItem) : Nat := if item.inTrade then 0 else item.stack entry

/-- What `DestroyItemCount` can take of an entry. -/
def untraded (mgr : ObjectMgr) (inv : Inventory) (entry : Nat) : Nat :=
  Stock.total (loose entry) destroyOrder (inv.getItemByPos mgr)

theorem mem_destroyOrder (pos : Pos) :
    pos ∈ destroyOrder ↔ (pos.1 = 255 ∧ pos.2 < 67) ∨ (19 ≤ pos.1 ∧ pos.1 < 23 ∧ pos.2 < 36) ∨
      (67 ≤ pos.1 ∧ pos.1 < 74 ∧ pos.2 < 36) := by
  simp only [destroyOrder, mem_append, mem_bodySlots, mem_bagContents, inventorySlotBag0,
    inventorySlotItemStart, inventorySlotItemEnd, inventorySlotBagStart, inventorySlotBagEnd,
    bankSlotItemStart, bankSlotItemEnd, bankSlotBagStart, bankSlotBagEnd, maxBagSize]
  omega

theorem mem_allPlaces_of_destroyOrder {pos : Pos} (member : pos ∈ destroyOrder) :
    pos ∈ allPlaces := by
  rw [mem_destroyOrder] at member
  rw [mem_allPlaces, isBagSlot_iff]
  omega

theorem destroyOrder_nodup : destroyOrder.Nodup := by
  have apart : ∀ (first second : List Pos), first.Nodup → second.Nodup →
      (∀ pos, pos ∈ first → pos ∉ second) → (first ++ second).Nodup :=
    fun first second left right disjoint => List.Nodup.append left right fun pos => disjoint pos
  refine apart _ _ (apart _ _ (apart _ _ (apart _ _ (bodySlots_nodup _ _) (bagContents_nodup _ _) ?_)
    (bodySlots_nodup _ _) ?_) (bodySlots_nodup _ _) ?_) (bagContents_nodup _ _) ?_
  all_goals
    intro pos here there
    simp only [mem_append, mem_bodySlots, mem_bagContents, inventorySlotBag0,
      inventorySlotItemStart, inventorySlotItemEnd, inventorySlotBagStart, inventorySlotBagEnd,
      bankSlotItemStart, bankSlotItemEnd, bankSlotBagStart, bankSlotBagEnd] at here there
    omega

structure Loses (mgr : ObjectMgr) (entry amount : Nat) (before after : Inventory) : Prop where
  total : ∀ other, after.total other + (if other = entry then amount else 0) = before.total other
  untraded : ∀ other,
    untraded mgr after other + (if other = entry then amount else 0) = untraded mgr before other
  fewer : ∀ pos item, after.getItemByPos mgr pos = some item →
    ∃ old, before.getItemByPos mgr pos = some old ∧ old.entry = item.entry ∧ item.count ≤ old.count

section

variable {mgr : ObjectMgr} {inv : Inventory} {entry amount : Nat}

theorem Loses.nothing (mgr : ObjectMgr) (entry : Nat) (inv : Inventory) : Loses mgr entry 0 inv inv :=
  ⟨fun _ => by rw [ite_self, Nat.add_zero], fun _ => by rw [ite_self, Nat.add_zero],
    fun _ item found => ⟨item, found, rfl, Nat.le_refl _⟩⟩

theorem Loses.trans {between after : Inventory} {more : Nat}
    (first : Loses mgr entry amount inv between) (second : Loses mgr entry more between after) :
    Loses mgr entry (amount + more) inv after := by
  constructor
  · intro other
    have one := first.total other
    have two := second.total other
    split at one
    · rename_i same
      rw [if_pos same] at two ⊢
      omega
    next apart =>
    rw [if_neg apart] at two ⊢
    omega
  · intro other
    have one := first.untraded other
    have two := second.untraded other
    split at one
    · rename_i same
      rw [if_pos same] at two ⊢
      omega
    next apart =>
    rw [if_neg apart] at two ⊢
    omega
  · intro pos item found
    obtain ⟨between, there, sameEntry, less⟩ := second.fewer pos item found
    obtain ⟨old, here, oldEntry, lesser⟩ := first.fewer pos between there
    exact ⟨old, here, oldEntry.trans sameEntry, less.trans lesser⟩

theorem Loses.holdsItems {after : Inventory} (loses : Loses mgr entry amount inv after) {pos : Pos}
    {item old : StoredItem} (same : old.entry = item.entry)
    (nothing : holdsItems mgr inv pos old = false) : holdsItems mgr after pos item = false := by
  have isBag : item.isBag mgr = old.isBag mgr := by
    unfold StoredItem.isBag
    rw [same]
  unfold Quests.holdsItems at nothing ⊢
  rw [isBag]
  by_cases bag : isBagPos pos && old.isBag mgr
  · rw [bag, Bool.true_and] at nothing ⊢
    apply any_eq_false.mpr
    intro place member
    have empty := any_eq_false.mp nothing place member
    cases found : after.getItemByPos mgr place with
    | none => simp
    | some inside =>
      obtain ⟨old, there, _⟩ := loses.fewer place inside found
      rw [there] at empty
      exact absurd rfl empty
  · rw [Bool.not_eq_true] at bag
    rw [bag, Bool.false_and]

/-- What is seen after a stack got smaller, or is gone and held nothing. -/
theorem getItemByPos_set {pos : Pos} {item : StoredItem} (found : inv.getItemByPos mgr pos = some item)
    {new : Option StoredItem} (keeps : (∃ count, new = some { item with count := count }) ∨
      (new = none ∧ holdsItems mgr inv pos item = false)) :
    (inv.set pos new).getItemByPos mgr = Function.update (inv.getItemByPos mgr) pos new := by
  have stands := Inventory.items_of_getItemByPos found
  funext place
  by_cases body : place.1 = inventorySlotBag0 ∧ place.2 < bankSlotBagEnd
  · have seen : ∀ inv : Inventory, inv.getItemByPos mgr place = inv.items place := by
      intro inv
      unfold Inventory.getItemByPos
      rw [if_pos body]
    rw [seen, Inventory.set_items]
    by_cases same : place = pos
    · rw [same, update_self, update_self]
    · rw [update_of_ne same, update_of_ne same, seen]
  · by_cases host : pos = (inventorySlotBag0, place.1) ∧ isBagSlot place.1 = true
    · obtain ⟨host, slot⟩ := host
      have apart : place ≠ pos := by
        intro same
        rw [← same] at host
        rw [congrArg Prod.fst host] at slot
        cases slot
      rw [update_of_ne apart]
      unfold Inventory.getItemByPos
      rw [if_neg body, if_neg body]
      rcases keeps with ⟨count, rfl⟩ | ⟨rfl, nothing⟩
      · have bags : (inv.set pos (some { item with count := count })).getBagByPos mgr place.1 =
            (inv.getBagByPos mgr place.1).map fun bag => { bag with count := count } := by
          unfold Inventory.getBagByPos
          rw [if_pos slot, if_pos slot, Inventory.set_items, ← host, update_self, stands]
          by_cases isBag : item.isBag mgr
          · rw [filter_some_pos isBag]
            exact filter_some_pos isBag
          rw [Bool.not_eq_true] at isBag
          rw [filter_some_neg isBag]
          exact filter_some_neg isBag
        rw [bags]
        cases inv.getBagByPos mgr place.1 with
        | none => rfl
        | some bag =>
          simp only [map_some, Inventory.set_items]
          rw [update_of_ne apart]
          rfl
      · have gone : (inv.set pos none).getBagByPos mgr place.1 = none := by
          unfold Inventory.getBagByPos
          rw [if_pos slot, Inventory.set_items, ← host, update_self]
          rfl
        rw [gone]
        cases there : inv.getBagByPos mgr place.1 with
        | none => rfl
        | some bag =>
          have ⟨_, here, isBag⟩ := Inventory.getBagByPos_slot there
          rw [← host, stands] at here
          obtain rfl := some.inj here
          simp only
          split
          · rename_i small
            have bagPos : isBagPos pos = true := by
              rw [host]
              simpa [isBagPos] using slot
            unfold holdsItems at nothing
            rw [bagPos, isBag, Bool.true_and, Bool.true_and, host] at nothing
            have size := Nat.lt_of_lt_of_le small (item.bagSize_le mgr)
            have empty := any_eq_false.mp nothing place ((mem_bagSlots _ _).mpr ⟨rfl, size⟩)
            have seen : inv.getItemByPos mgr place = inv.items place :=
              Inventory.getItemByPos_of_holds (.inr ⟨item, there, small⟩)
            rw [seen] at empty
            cases content : inv.items place with
            | none => rfl
            | some inside =>
              rw [content] at empty
              exact absurd rfl empty
          · rfl
    · have bags : (inv.set pos new).getBagByPos mgr place.1 = inv.getBagByPos mgr place.1 := by
        unfold Inventory.getBagByPos
        split
        · rename_i slot
          rw [Inventory.set_items, update_of_ne fun same => host ⟨same.symm, slot⟩]
        · rfl
      by_cases same : place = pos
      · subst same
        rw [update_self]
        rcases Inventory.holds_of_getItemByPos found with inBody | ⟨bag, there, small⟩
        · exact absurd inBody body
        unfold Inventory.getItemByPos
        rw [if_neg body, bags, there]
        simp only [if_pos small, Inventory.set_items, update_self]
      · rw [update_of_ne same]
        unfold Inventory.getItemByPos
        rw [if_neg body, if_neg body, bags, Inventory.set_items, update_of_ne same]

/-- A stack from which something is taken. -/
theorem loses_set {pos : Pos} {item : StoredItem} (found : inv.getItemByPos mgr pos = some item)
    (member : pos ∈ destroyOrder) (free : item.inTrade = false) (left : Nat)
    (less : left ≤ item.count) (new : Option StoredItem)
    (keeps : new = some { item with count := left } ∨
      (new = none ∧ left = 0 ∧ holdsItems mgr inv pos item = false)) :
    Loses mgr item.entry (item.count - left) inv (inv.set pos new) := by
  have seen := getItemByPos_set found (keeps.imp (fun part => ⟨left, part⟩)
    fun ⟨gone, _, nothing⟩ => ⟨gone, nothing⟩)
  have stays : ∀ other, new.elim 0 (·.stack other) = if other = item.entry then left else 0 := by
    intro other
    rcases keeps with rfl | ⟨rfl, rfl, _⟩
    · simp only [elim_some, StoredItem.stack, eq_comm]
    · rw [ite_self]
      rfl
  have staysLoose : ∀ other, new.elim 0 (loose other) = if other = item.entry then left else 0 := by
    intro other
    rw [← stays other]
    rcases keeps with rfl | ⟨rfl, _⟩
    · simp only [elim_some, loose, free, Bool.false_eq_true, if_false]
    · rfl
  constructor
  · intro other
    have change := @Inventory.total_set inv pos new other (mem_allPlaces_of_destroyOrder member)
    rw [Inventory.items_of_getItemByPos found, elim_some, stays other] at change
    simp only [StoredItem.stack, eq_comm (a := item.entry)] at change
    split at change
    · rename_i same
      rw [if_pos same]
      omega
    next apart =>
    rw [if_neg apart]
    omega
  · intro other
    have change := Stock.total_update (loose other) destroyOrder (inv.getItemByPos mgr) pos new
      destroyOrder_nodup member
    rw [found, elim_some, staysLoose other] at change
    unfold untraded
    rw [seen]
    simp only [loose, free, Bool.false_eq_true, if_false, StoredItem.stack,
      eq_comm (a := item.entry)] at change ⊢
    split at change
    · rename_i same
      rw [if_pos same]
      omega
    next apart =>
    rw [if_neg apart]
    omega
  · intro place stack there
    rw [seen] at there
    by_cases same : place = pos
    · subst same
      rw [update_self] at there
      subst there
      rcases keeps with part | ⟨gone, _⟩
      · obtain rfl := some.inj part
        exact ⟨item, found, rfl, less⟩
      · cases gone
    · rw [update_of_ne same] at there
      exact ⟨stack, there, rfl, Nat.le_refl _⟩

end

/-- Stacks as they are stored, and no bag of an entry that holds something. -/
structure Takeable (mgr : ObjectMgr) (inv : Inventory) (entry : Nat) : Prop where
  counts : ∀ pos item, inv.getItemByPos mgr pos = some item → item.count < 2 ^ 31
  bags : ∀ pos item, inv.getItemByPos mgr pos = some item → item.entry = entry →
    holdsItems mgr inv pos item = false

theorem Takeable.after {mgr : ObjectMgr} {inv after : Inventory} {entry other amount : Nat}
    (takeable : Takeable mgr inv entry) (loses : Loses mgr other amount inv after) :
    Takeable mgr after entry := by
  constructor
  · intro pos item found
    obtain ⟨old, there, _, less⟩ := loses.fewer pos item found
    exact Nat.lt_of_le_of_lt less (takeable.counts pos old there)
  · intro pos item found asked
    obtain ⟨old, there, same, _⟩ := loses.fewer pos item found
    exact loses.holdsItems same (takeable.bags pos old there (same.trans asked))

variable {w : World}

theorem destroyed_lone {inv : Inventory} {pos : Pos} {item : StoredItem}
    (found : inv.getItemByPos w.items pos = some item)
    (nothing : holdsItems w.items inv pos item = false) :
    afterLosses w inv (destroyed w inv pos) = inv.set pos none := by
  unfold destroyed
  rw [found]
  simp only [nothing, Bool.false_eq_true, if_false, nil_append]
  exact Inventory.removeItem_items found

/-- The loops take what is asked for, or all that they can. -/
theorem taken_loses {entry count : Nat} (small : count < 2 ^ 16) {places : List Pos}
    (inside : ∀ pos ∈ places, pos ∈ destroyOrder) (distinct : places.Nodup) (remcount : Nat)
    (within : remcount ≤ count) (inv : Inventory) (takeable : Takeable w.items inv entry) :
    Loses w.items entry
      (min (count - remcount) (Stock.total (loose entry) places (inv.getItemByPos w.items))) inv
      (afterLosses w inv (taken w entry count false places remcount inv)) := by
  induction places generalizing remcount inv with
  | nil =>
    have none_ : Stock.total (loose entry) [] (inv.getItemByPos w.items) = 0 := rfl
    rw [none_, Nat.min_zero]
    exact Loses.nothing _ _ _
  | cons pos rest ih =>
    obtain ⟨fresh, distinct⟩ := nodup_cons.mp distinct
    have later := fun place member => inside place (mem_cons_of_mem pos member)
    rw [Stock.total_cons]
    unfold taken
    cases found : inv.getItemByPos w.items pos with
    | none =>
      simp only [elim_none, Nat.zero_add]
      exact ih later distinct remcount within inv takeable
    | some item =>
      simp only [elim_some]
      split
      · rename_i wanted
        obtain ⟨rfl, free⟩ := wanted
        have weight : loose item.entry item = item.count := by
          simp [loose, free, StoredItem.stack]
        have bounded := takeable.counts pos item found
        have sum : toUInt32 ((item.count : Int) + remcount) = item.count + remcount := by
          exact_mod_cast toUInt32_of_lt (item.count + remcount) (by omega)
        have member := inside pos mem_cons_self
        have nothing := takeable.bags pos item found rfl
        rw [weight, sum]
        split
        · rename_i whole
          have next_ : toUInt32 ((remcount : Int) + item.count) = remcount + item.count := by
            exact_mod_cast toUInt32_of_lt (remcount + item.count) (by omega)
          have lost := loses_set found member free 0 (Nat.zero_le _) none (.inr ⟨rfl, rfl, nothing⟩)
          have seen := getItemByPos_set found (.inr ⟨rfl, nothing⟩)
          simp only [Bool.false_eq_true, false_and, and_false, if_false, next_]
          split
          · rename_i enough
            rw [destroyed_lone found nothing]
            have exact_ : min (count - remcount) (item.count +
                Stock.total (loose item.entry) rest (inv.getItemByPos w.items)) =
                item.count - 0 := by omega
            rw [exact_]
            exact lost
          · rename_i more
            have after := ih later distinct (remcount + item.count) (by omega)
              (inv.set pos none) (takeable.after lost)
            rw [seen, Stock.total_update_outside _ _ _ _ fresh] at after
            rw [afterLosses, foldl_append, ← afterLosses, ← afterLosses,
              destroyed_lone found nothing]
            have parts := lost.trans after
            have exact_ : item.count - 0 + min (count - (remcount + item.count))
                (Stock.total (loose item.entry) rest (inv.getItemByPos w.items)) =
                min (count - remcount) (item.count +
                  Stock.total (loose item.entry) rest (inv.getItemByPos w.items)) := by
              omega
            rw [exact_] at parts
            exact parts
        · rename_i part
          have left : toUInt32 ((item.count : Int) - count + remcount) =
              item.count - (count - remcount) := by
            have same : (item.count : Int) - count + remcount =
                ((item.count - (count - remcount) : Nat) : Int) := by omega
            rw [same]
            exact toUInt32_of_lt _ (by omega)
          have lost := loses_set found member free (item.count - (count - remcount))
            (Nat.sub_le _ _) _ (.inl rfl)
          have exact_ : min (count - remcount) (item.count +
              Stock.total (loose item.entry) rest (inv.getItemByPos w.items)) =
              item.count - (item.count - (count - remcount)) := by omega
          rw [exact_, left]
          exact lost
      · rename_i other
        have weight : loose entry item = 0 := by
          simp only [loose, StoredItem.stack]
          split
          · rfl
          · next free => rw [if_neg fun same => other ⟨same, Bool.not_eq_true _ ▸ free⟩]
        rw [weight, Nat.zero_add]
        exact ih later distinct remcount within inv takeable

/-- One request for an amount of an entry, and none for no entry. -/
def takeOut (w : World) (inv : Inventory) (take : Nat × Nat) : Inventory :=
  if take.1 = 0 then inv
  else afterLosses w inv (taken w take.1 take.2 false destroyOrder 0 inv)

theorem takeOut_loses {inv : Inventory} {take : Nat × Nat} (nonzero : take.1 ≠ 0)
    (small : take.2 < 2 ^ 16) (takeable : Takeable w.items inv take.1) :
    Loses w.items take.1 (min take.2 (untraded w.items inv take.1)) inv (takeOut w inv take) := by
  have loses := taken_loses small (fun _ member => member) destroyOrder_nodup 0
    (Nat.zero_le _) inv takeable
  rw [Nat.sub_zero] at loses
  unfold takeOut
  rw [if_neg nonzero]
  exact loses

theorem takeOut_all (takes : List (Nat × Nat)) (small : ∀ take ∈ takes, take.2 < 2 ^ 16)
    (inv : Inventory) (takeable : ∀ take ∈ takes, take.1 ≠ 0 → Takeable w.items inv take.1)
    (entry : Nat) (nonzero : entry ≠ 0) :
    (takes.foldl (takeOut w) inv).total entry +
      min (Stock.amount entry takes) (untraded w.items inv entry) = inv.total entry := by
  induction takes generalizing inv with
  | nil =>
    have none_ : Stock.amount entry [] = 0 := rfl
    rw [none_, Nat.zero_min]
    exact Nat.add_zero _
  | cons take rest ih =>
    have later := fun other member => small other (mem_cons_of_mem take member)
    rw [foldl_cons, Stock.amount_cons]
    by_cases zero : take.1 = 0
    · have same : takeOut w inv take = inv := if_pos zero
      rw [same, if_neg fun here => nonzero (here.symm.trans zero), Nat.zero_add]
      exact ih later inv fun other member => takeable other (mem_cons_of_mem take member)
    have loses := takeOut_loses zero (small take mem_cons_self) (takeable take mem_cons_self zero)
    have after := ih later (takeOut w inv take) fun other member asked =>
      (takeable other (mem_cons_of_mem take member) asked).after loses
    have total := loses.total entry
    have free := loses.untraded entry
    by_cases here : take.1 = entry
    · rw [if_pos here.symm, here] at total free
      rw [if_pos here]
      omega
    rw [if_neg (Ne.symm here), Nat.add_zero] at total free
    rw [if_neg here, Nat.zero_add, ← free, ← total]
    exact after

end OpenWoW.Quests
