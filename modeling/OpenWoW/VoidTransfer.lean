import OpenWoW.VoidStorage
import Mathlib.Tactic.SplitIfs

/-! Pieces in the inventory and in the void storage, over a transfer. -/
namespace OpenWoW.Storage.Inventory

variable {mgr : ObjectMgr} {inv after : Inventory}

def Below (after inv : Inventory) : Prop :=
  ∀ pos, after.items pos = inv.items pos ∨ after.items pos = none

/-- Every stack has a piece. -/
def Live (inv : Inventory) : Prop := ∀ pos item, inv.items pos = some item → 0 < item.count

theorem Below.refl (inv : Inventory) : Below inv inv := fun _ => Or.inl rfl

theorem Below.trans {last : Inventory} (second : Below last after) (first : Below after inv) :
    Below last inv := by
  intro pos
  rcases second pos with same | gone
  · rw [same]
    exact first pos
  · exact Or.inr gone

theorem Below.live (below : Below after inv) (live : inv.Live) : after.Live := by
  intro pos item there
  rcases below pos with same | gone
  · exact live pos item (same ▸ there)
  · rw [gone] at there
    cases there

theorem Below.total_le (below : Below after inv) (entry : Nat) :
    after.total entry ≤ inv.total entry := by
  apply Stock.total_mono
  intro pos _
  rcases below pos with same | gone
  · rw [same]
  · rw [gone]
    exact Nat.zero_le _

variable {pos : Pos} {item : StoredItem}

theorem Below.set_none (below : Below after inv) (gone : after.items pos = none) :
    Below after (inv.set pos none) := by
  intro place
  rw [set_items]
  by_cases same : place = pos
  · subst same
    exact Or.inr gone
  · rw [Function.update_of_ne same]
    exact below place

theorem Below.total_gone (below : Below after inv)
    (stood : inv.items pos = some item) (gone : after.items pos = none) (here : pos ∈ allPlaces)
    (entry : Nat) : after.total entry + item.stack entry ≤ inv.total entry := by
  have emptied := @total_set inv pos none entry here
  have less := (below.set_none gone).total_le entry
  rw [stood] at emptied
  simp only [Option.elim_some, Option.elim_none] at emptied
  omega

theorem Below.total_gone_two (below : Below after inv) {place : Pos} {other : StoredItem}
    (stood : inv.items pos = some item) (gone : after.items pos = none) (here : pos ∈ allPlaces)
    (stood' : inv.items place = some other) (gone' : after.items place = none)
    (here' : place ∈ allPlaces) (apart : place ≠ pos) (entry : Nat) :
    after.total entry + item.stack entry + other.stack entry ≤ inv.total entry := by
  have emptied := @total_set inv pos none entry here
  have still : (inv.set pos none).items place = some other := by
    rw [set_items, Function.update_of_ne apart]
    exact stood'
  have less := (below.set_none gone).total_gone still gone' here' entry
  rw [stood] at emptied
  simp only [Option.elim_some, Option.elim_none] at emptied
  omega

theorem removeItem_below (pos : Pos) : Below (inv.removeItem mgr pos) inv := by
  unfold removeItem
  split
  · intro place
    rw [set_items]
    by_cases same : place = pos
    · subst same
      exact Or.inr (Function.update_self ..)
    · exact Or.inl (Function.update_of_ne same ..)
  · exact Below.refl inv

theorem removeAll_below (places : List Pos) (inv : Inventory) :
    Below (places.foldl (removeItem mgr) inv) inv := by
  induction places generalizing inv with
  | nil => exact Below.refl inv
  | cons pos rest ih => exact (ih _).trans (removeItem_below pos)

theorem Tidy.removeItem_gone (tidy : inv.Tidy mgr) (pos : Pos) :
    (inv.removeItem mgr pos).items pos = none := by
  cases found : inv.getItemByPos mgr pos with
  | none =>
    unfold removeItem
    rw [found]
    rw [tidy.getItemByPos pos] at found
    exact found
  | some item =>
    rw [removeItem_items found, set_items]
    exact Function.update_self ..

theorem removeItem_inBag_tidy (tidy : inv.Tidy mgr) (inBag : isBagSlot pos.1 = true) :
    (inv.removeItem mgr pos).Tidy mgr := by
  apply removeItem_tidy tidy
  intro item _ bagPos
  unfold isBagPos at bagPos
  simp only [Bool.and_eq_true, beq_iff_eq] at bagPos
  rw [bagPos.1] at inBag
  cases inBag

theorem removeAll_tidy {places : List Pos} (inv : Inventory) (tidy : inv.Tidy mgr)
    (inBags : ∀ pos ∈ places, isBagSlot pos.1 = true) :
    (places.foldl (removeItem mgr) inv).Tidy mgr ∧
      ∀ pos ∈ places, (places.foldl (removeItem mgr) inv).items pos = none := by
  induction places generalizing inv with
  | nil => exact ⟨tidy, fun _ none_ => by cases none_⟩
  | cons pos rest ih =>
    have next := removeItem_inBag_tidy tidy (inBags pos List.mem_cons_self)
    have ⟨tidied, gone⟩ := ih _ next fun other there => inBags other (List.mem_cons_of_mem _ there)
    refine ⟨tidied, fun place there => ?_⟩
    rcases List.mem_cons.mp there with rfl | later
    · rcases @removeAll_below mgr rest (inv.removeItem mgr place) place with same | gone
      · rw [List.foldl_cons, same]
        exact tidy.removeItem_gone place
      · exact gone
    · exact gone place later

theorem destroyItem_facts (tidy : inv.Tidy mgr) (found : inv.getItemByPos mgr pos = some item) :
    (inv.destroyItem mgr pos).Tidy mgr ∧ Below (inv.destroyItem mgr pos) inv ∧
      (inv.destroyItem mgr pos).items pos = none ∧
      (inv.isNotEmptyBag mgr pos item = true →
        ∀ place ∈ bagSlots pos.2, (inv.destroyItem mgr pos).items place = none) := by
  unfold destroyItem
  rw [found]
  simp only
  by_cases bag : inv.isNotEmptyBag mgr pos item = true
  · rw [if_pos bag]
    have isBag := bag
    unfold isNotEmptyBag isBagPos at isBag
    simp only [Bool.and_eq_true, beq_iff_eq] at isBag
    have inBags : ∀ place ∈ bagSlots pos.2, isBagSlot place.1 = true := by
      intro place there
      rw [((mem_bagSlots _ _).mp there).1]
      exact isBag.1.1.2
    have ⟨tidied, gone⟩ := removeAll_tidy inv tidy inBags
    have below := @removeAll_below mgr (bagSlots pos.2) inv
    generalize (bagSlots pos.2).foldl (removeItem mgr) inv = emptied at tidied gone below
    refine ⟨?_, (removeItem_below pos).trans below, tidied.removeItem_gone pos, fun _ place there => ?_⟩
    · apply removeItem_tidy tidied
      intro _ _ _ _
      unfold bagNotEmpty
      rw [List.any_eq_false]
      intro place there
      rw [tidied.getItemByPos place, gone place there]
      decide
    · rcases @removeItem_below mgr emptied pos place with same | none_
      · rw [same]
        exact gone place there
      · exact none_
  · rw [if_neg bag]
    refine ⟨?_, removeItem_below pos, tidy.removeItem_gone pos, fun isBag => absurd isBag bag⟩
    apply removeItem_tidy tidy
    intro other there bagPos isBag
    obtain rfl := Option.some.inj (found.symm.trans there)
    unfold isNotEmptyBag at bag
    simpa [bagPos, isBag] using bag

theorem destroyItem_plain (found : inv.getItemByPos mgr pos = some item)
    (plain : inv.isNotEmptyBag mgr pos item = false) :
    inv.destroyItem mgr pos = inv.removeItem mgr pos := by
  unfold destroyItem
  rw [found]
  simp [plain]

theorem getItemByGuid_some {guid : Nat} (found : inv.getItemByGuid mgr guid = some (pos, item)) :
    inv.getItemByPos mgr pos = some item := by
  obtain ⟨place, _, here⟩ := List.exists_of_findSome?_eq_some found
  obtain ⟨other, there, same⟩ := Option.map_eq_some_iff.mp here
  simp only [Prod.mk.injEq] at same
  obtain ⟨rfl, rfl⟩ := same
  exact (Option.filter_eq_some_iff.mp there).1

end OpenWoW.Storage.Inventory

namespace OpenWoW.VoidStorage

open Storage

/-- How many records of an entry there are. -/
def State.stored (s : State) (entry : Nat) : Nat :=
  Stock.total (fun item => if item.itemEntry = entry then 1 else 0) allSlots s.voidStorageItems

def State.pieces (s : State) (entry : Nat) : Nat := s.inventory.total entry + s.stored entry

/-- Each guid that names an item, once the items named before it are taken out, names a single piece
and no bag that holds something. -/
def DepositsPlain (mgr : ObjectMgr) : Inventory → List Nat → Prop
  | _, [] => True
  | inv, guid :: rest =>
    match inv.getItemByGuid mgr guid with
    | none => DepositsPlain mgr inv rest
    | some (pos, item) => (item.count = 1 ∧ inv.isNotEmptyBag mgr pos item = false) ∧
        DepositsPlain mgr (inv.removeItem mgr pos) rest

section

variable {mgr : ObjectMgr} {s : State}

theorem stored_set (slot : Fin voidStorageMaxSlot) (item : Option VoidStorageItem) (entry : Nat) :
    (s.setVoidStorageItem slot item).stored entry +
        (s.voidStorageItems slot).elim 0 (fun item => if item.itemEntry = entry then 1 else 0) =
      s.stored entry + item.elim 0 fun item => if item.itemEntry = entry then 1 else 0 :=
  Stock.total_update _ _ _ _ _ (List.nodup_finRange _) (List.mem_finRange slot)

theorem addVoidStorageItem_free (item : VoidStorageItem)
    (room : 0 < s.getNumOfVoidStorageFreeSlots) :
    ∃ slot, s.voidStorageItems slot = none ∧
      s.addVoidStorageItem item = (s.setVoidStorageItem slot (some item), some slot) := by
  unfold State.addVoidStorageItem
  cases next : s.getNextVoidStorageFreeSlot with
  | none =>
    have taken := List.find?_eq_none.mp next
    exact absurd (List.countP_eq_zero.mpr taken) (by
      unfold State.getNumOfVoidStorageFreeSlots at room
      omega)
  | some slot =>
    have free := List.find?_some next
    exact ⟨slot, Option.isNone_iff_eq_none.mp free, rfl⟩

theorem setVoidStorageItem_free {slot : Fin voidStorageMaxSlot} {item : VoidStorageItem}
    (free : s.voidStorageItems slot = none) :
    (s.setVoidStorageItem slot (some item)).getNumOfVoidStorageFreeSlots + 1 =
      s.getNumOfVoidStorageFreeSlots := by
  have before := Stock.total_one_add_free allSlots s.voidStorageItems
  have after := Stock.total_one_add_free allSlots
    (Function.update s.voidStorageItems slot (some item))
  have taken := Stock.total_update (fun _ : VoidStorageItem => 1) allSlots s.voidStorageItems slot
    (some item) (List.nodup_finRange _) (List.mem_finRange slot)
  rw [free] at taken
  simp only [Option.elim_none, Option.elim_some] at taken
  unfold State.getNumOfVoidStorageFreeSlots State.setVoidStorageItem
  simp only
  omega

theorem deposit_facts {guid : Nat} {pos : Pos} {item : StoredItem}
    (found : s.inventory.getItemByGuid mgr guid = some (pos, item))
    (room : 0 < s.getNumOfVoidStorageFreeSlots) :
    ∃ slot, s.voidStorageItems slot = none ∧
      s.deposit mgr guid =
        ({ inventory := s.inventory.destroyItem mgr pos
           voidStorageItems := Function.update s.voidStorageItems slot
             (some ⟨s.nextItemId, item.entry⟩)
           money := s.money
           nextGuid := s.nextGuid
           nextItemId := s.nextItemId + 1 },
          [(⟨s.nextItemId, item.entry⟩, some slot)]) := by
  obtain ⟨slot, free, added⟩ := @addVoidStorageItem_free
    { s with nextItemId := s.nextItemId + 1 } ⟨s.nextItemId, item.entry⟩ room
  refine ⟨slot, free, ?_⟩
  unfold State.deposit
  rw [found]
  simp only
  rw [added]
  rfl

/-- A deposit loses nothing exactly when it takes a single piece that holds nothing. -/
theorem deposit_pieces {guid : Nat} {pos : Pos} {item : StoredItem} (tidy : s.inventory.Tidy mgr)
    (live : s.inventory.Live) (found : s.inventory.getItemByGuid mgr guid = some (pos, item))
    (room : 0 < s.getNumOfVoidStorageFreeSlots) :
    (∀ entry, (s.deposit mgr guid).1.pieces entry ≤ s.pieces entry) ∧
      ((∀ entry, (s.deposit mgr guid).1.pieces entry = s.pieces entry) ↔
        item.count = 1 ∧ s.inventory.isNotEmptyBag mgr pos item = false) := by
  obtain ⟨slot, free, deposited⟩ := deposit_facts found room
  have there := Inventory.getItemByGuid_some found
  have here := Inventory.mem_allPlaces_of_holds (Inventory.holds_of_getItemByPos there)
  have stood := Inventory.items_of_getItemByPos there
  have positive := live pos item stood
  have ⟨_, below, gone, emptied⟩ := Inventory.destroyItem_facts tidy there
  have recorded : ∀ entry, (s.deposit mgr guid).1.pieces entry =
      (s.inventory.destroyItem mgr pos).total entry + s.stored entry +
        if item.entry = entry then 1 else 0 := by
    intro entry
    have change := @stored_set s slot (some ⟨s.nextItemId, item.entry⟩) entry
    rw [free] at change
    simp only [Option.elim_none, Option.elim_some, Nat.add_zero] at change
    rw [deposited, Nat.add_assoc, ← change]
    rfl
  have lost := below.total_gone stood gone here
  constructor
  · intro entry
    have less := lost entry
    rw [recorded entry]
    unfold State.pieces
    unfold StoredItem.stack at less
    split at less
    · rename_i same
      rw [if_pos same]
      omega
    next differs =>
    rw [if_neg differs]
    omega
  · constructor
    · intro same
      have own := same item.entry
      have less := lost item.entry
      rw [recorded, if_pos rfl] at own
      unfold State.pieces at own
      unfold StoredItem.stack at less
      rw [if_pos rfl] at less
      have single : item.count = 1 := by omega
      refine ⟨single, ?_⟩
      by_contra bag
      rw [Bool.not_eq_false] at bag
      -- a piece in the bag would be missing
      have nonempty := bag
      unfold Inventory.isNotEmptyBag isBagPos at nonempty
      simp only [Bool.and_eq_true, beq_iff_eq] at nonempty
      obtain ⟨place, inside, occupied⟩ := List.any_eq_true.mp nonempty.2
      obtain ⟨other, isOther⟩ := Option.isSome_iff_exists.mp occupied
      have stood' := Inventory.items_of_getItemByPos isOther
      have here' := Inventory.mem_allPlaces_of_holds (Inventory.holds_of_getItemByPos isOther)
      have apart : place ≠ pos := by
        rintro rfl
        have bagSlot := nonempty.1.1.2
        rw [← ((mem_bagSlots _ _).mp inside).1, nonempty.1.1.1] at bagSlot
        cases bagSlot
      have both := below.total_gone_two stood gone here stood' (emptied bag place inside) here' apart
        other.entry
      have alive := live place other stood'
      have kept := same other.entry
      rw [recorded] at kept
      unfold State.pieces at kept
      unfold StoredItem.stack at both
      rw [if_pos rfl] at both
      split at kept <;> split at both <;> omega
    · intro ⟨single, plain⟩ entry
      have removed := Inventory.removeItem_total there entry
      rw [← Inventory.destroyItem_plain there plain] at removed
      rw [recorded]
      unfold State.pieces
      unfold StoredItem.stack at removed
      rw [single] at removed
      omega

/-- What the loop over the guids leaves. -/
structure Deposited (mgr : ObjectMgr) (s : State) (guids : List Nat) (after : State)
    (deposits : List Deposit) : Prop where
  tidy : after.inventory.Tidy mgr
  money : after.money = s.money
  slots : ∀ slot item, s.voidStorageItems slot = some item → after.voidStorageItems slot = some item
  few : deposits.length ≤ guids.length
  pieces_le : ∀ entry, after.pieces entry ≤ s.pieces entry
  pieces_iff : (∀ entry, after.pieces entry = s.pieces entry) ↔ DepositsPlain mgr s.inventory guids
  nothing : deposits = [] → after = s

theorem deposits_deposited (guids : List Nat) (s : State) (tidy : s.inventory.Tidy mgr)
    (live : s.inventory.Live) (room : guids.length ≤ s.getNumOfVoidStorageFreeSlots) :
    Deposited mgr s guids (s.deposits mgr guids).1 (s.deposits mgr guids).2 := by
  induction guids generalizing s with
  | nil =>
    exact ⟨tidy, rfl, fun _ _ there => there, Nat.le_refl _, fun _ => Nat.le_refl _,
      iff_of_true (fun _ => rfl) trivial, fun _ => rfl⟩
  | cons guid rest ih =>
    rw [List.length_cons] at room
    unfold State.deposits
    simp only
    cases found : s.inventory.getItemByGuid mgr guid with
    | none =>
      have skipped : s.deposit mgr guid = (s, []) := by
        unfold State.deposit
        rw [found]
      rw [skipped]
      have later := ih s tidy live (by omega)
      refine ⟨later.tidy, later.money, later.slots, Nat.le_succ_of_le later.few, later.pieces_le,
        ?_, fun none_ => later.nothing (List.append_eq_nil_iff.mp none_).2⟩
      unfold DepositsPlain
      rw [found]
      exact later.pieces_iff
    | some named =>
      obtain ⟨pos, item⟩ := named
      obtain ⟨slot, free, deposited⟩ := deposit_facts found (by omega)
      have there := Inventory.getItemByGuid_some found
      have ⟨tidied, below, _, _⟩ := Inventory.destroyItem_facts tidy there
      have ⟨pieces, plain⟩ := deposit_pieces tidy live found (by omega)
      have fewer := @setVoidStorageItem_free s slot ⟨s.nextItemId, item.entry⟩ free
      have later := ih (s.deposit mgr guid).1 (by rw [deposited]; exact tidied)
        (by rw [deposited]; exact below.live live) (by
          rw [deposited]
          unfold State.getNumOfVoidStorageFreeSlots at *
          unfold State.setVoidStorageItem at fewer
          simp only at fewer ⊢
          omega)
      generalize (s.deposit mgr guid).1.deposits mgr rest = last at later
      constructor
      · exact later.tidy
      · rw [later.money, deposited]
      · intro place record stood
        apply later.slots
        rw [deposited]
        have apart : place ≠ slot := by
          rintro rfl
          rw [free] at stood
          cases stood
        simp only [Function.update_of_ne apart]
        exact stood
      · have few := later.few
        rw [deposited]
        simp only [List.length_append, List.length_cons, List.length_nil]
        omega
      · intro entry
        exact Nat.le_trans (later.pieces_le entry) (pieces entry)
      · unfold DepositsPlain
        rw [found]
        constructor
        · intro same
          have first : ∀ entry, (s.deposit mgr guid).1.pieces entry = s.pieces entry := by
            intro entry
            have more := later.pieces_le entry
            rw [same entry] at more
            exact Nat.le_antisymm (pieces entry) more
          have single := plain.mp first
          refine ⟨single, ?_⟩
          rw [← Inventory.destroyItem_plain there single.2]
          have rest := later.pieces_iff.mp fun entry => (same entry).trans (first entry).symm
          rw [deposited] at rest
          exact rest
        · intro ⟨single, rest⟩ entry
          rw [← Inventory.destroyItem_plain there single.2] at rest
          rw [later.pieces_iff.mpr (by rw [deposited]; exact rest) entry]
          exact plain.mpr single entry
      · rw [deposited]
        intro none_
        cases none_

theorem bind_total (inv : Inventory) (pos : Pos) (entry : Nat) :
    (inv.bind pos).total entry = inv.total entry := by
  unfold Inventory.bind
  cases stood : inv.items pos with
  | none => rfl
  | some item =>
    apply Stock.total_congr
    intro place _
    rw [Inventory.set_items]
    by_cases same : place = pos
    · subst same
      rw [Function.update_self, stood]
      rfl
    · rw [Function.update_of_ne same]

theorem bind_tidy {inv : Inventory} (tidy : inv.Tidy mgr) (pos : Pos) :
    (inv.bind pos).Tidy mgr := by
  unfold Inventory.bind
  cases stood : inv.items pos with
  | none => exact tidy
  | some item =>
    have keeps : ∀ place bag, inv.getBagByPos mgr place = some bag →
        pos = (inventorySlotBag0, place) →
        ∃ other, some ({ item with soulBound := true } : StoredItem) = some other ∧
          other.isBag mgr = true ∧ bag.bagSize mgr ≤ other.bagSize mgr := by
      intro place bag there inside
      have ⟨_, here, isBag⟩ := Inventory.getBagByPos_slot there
      rw [← inside, stood] at here
      obtain rfl := Option.some.inj here
      exact ⟨_, rfl, isBag, Nat.le_refl _⟩
    have holds := tidy pos (by rw [stood]; exact Option.some_ne_none item)
    exact tidy.set (Or.inr holds) (fun place _ bag there inside => keeps place.1 bag there inside)
      fun holds => holds.set fun bag there inside => keeps pos.1 bag there inside

theorem storeNewItem_facts {entry : Nat} (tidy : s.inventory.Tidy mgr)
    (fine : (s.inventory.canStoreNewItem mgr nullBag nullSlot entry 1).result = .ok) :
    (s.storeNewItem mgr entry
        (s.inventory.canStoreNewItem mgr nullBag nullSlot entry 1).dest).inventory.Tidy mgr ∧
      (∀ other, (s.storeNewItem mgr entry
          (s.inventory.canStoreNewItem mgr nullBag nullSlot entry 1).dest).inventory.total other =
        s.inventory.total other + if entry = other then 1 else 0) ∧
      (s.storeNewItem mgr entry
        (s.inventory.canStoreNewItem mgr nullBag nullSlot entry 1).dest).voidStorageItems =
          s.voidStorageItems ∧
      (s.storeNewItem mgr entry
        (s.inventory.canStoreNewItem mgr nullBag nullSlot entry 1).dest).money = s.money := by
  have ⟨planned, sum⟩ := @Inventory.canStoreItem_spec mgr s.inventory nullBag nullSlot entry 1 none
    false (by decide) (by decide) (Or.inr (by simp))
  have plan := sum fine
  have fits := planned.fits_new
  unfold Inventory.canStoreNewItem
  generalize (s.inventory.canStoreItem mgr nullBag nullSlot entry 1 none false).dest = dest at *
  have known : 0 < mgr.maxStack entry := by
    cases dest with
    | nil => cases plan
    | cons put rest =>
      have room := fits.room put List.mem_cons_self
      omega
  obtain ⟨item, made⟩ := @StoredItem.create_isSome mgr s.nextGuid s.inventory.owner entry
    (toUInt32 (dest.map Prod.snd).sum) (by rw [plan]; decide) known
  have facts := StoredItem.create_some made
  rw [← facts.1] at fits
  have tidied := (Inventory.storeItem_lands (s.nextGuid + 1) fits).2 tidy
  have total := fun other => Inventory.storeItem_total (s.nextGuid + 1) fits other
  unfold State.storeNewItem
  rw [made]
  simp only
  refine ⟨?_, fun other => ?_, trivial, trivial⟩
  · split
    · exact bind_tidy tidied _
    · exact tidied
  · split
    · rw [bind_total, total other, facts.1, plan]
    · rw [total other, facts.1, plan]

/-- What the loop over the ids leaves, and whether anything was withdrawn. -/
structure Withdrawn (mgr : ObjectMgr) (s after : State) (items : List VoidStorageItem) : Prop where
  tidy : after.inventory.Tidy mgr
  money : after.money = s.money
  slots : ∀ slot, after.voidStorageItems slot = s.voidStorageItems slot ∨
    after.voidStorageItems slot = none
  pieces : ∀ entry, after.pieces entry = s.pieces entry
  nothing : items = [] → after = s
  something : items ≠ [] → after.voidStorageItems ≠ s.voidStorageItems

theorem Withdrawn.refl (tidy : s.inventory.Tidy mgr) : Withdrawn mgr s s [] :=
  ⟨tidy, rfl, fun _ => Or.inl rfl, fun _ => rfl, fun _ => rfl, fun some_ => absurd rfl some_⟩

theorem withdraw_withdrawn {id : Nat} {after : State} {items : List VoidStorageItem}
    (tidy : s.inventory.Tidy mgr) (withdrew : s.withdraw mgr id = some (after, items)) :
    Withdrawn mgr s after items := by
  unfold State.withdraw at withdrew
  cases found : s.getVoidStorageItem id with
  | none =>
    rw [found] at withdrew
    obtain ⟨rfl, rfl⟩ := Prod.mk.inj (Option.some.inj withdrew)
    exact Withdrawn.refl tidy
  | some named =>
    obtain ⟨slot, itemVS⟩ := named
    have stood : s.voidStorageItems slot = some itemVS := by
      obtain ⟨place, _, here⟩ := List.exists_of_findSome?_eq_some found
      obtain ⟨other, there, same⟩ := Option.map_eq_some_iff.mp here
      obtain ⟨rfl, rfl⟩ := Prod.mk.inj same
      exact (Option.filter_eq_some_iff.mp there).1
    rw [found] at withdrew
    simp only at withdrew
    split at withdrew
    · cases withdrew
    next fine =>
    have ⟨tidied, total, slots, money⟩ := storeNewItem_facts tidy (not_not.mp fine)
    generalize s.storeNewItem mgr itemVS.itemEntry
      (s.inventory.canStoreNewItem mgr nullBag nullSlot itemVS.itemEntry 1).dest = stored at *
    obtain ⟨rfl, rfl⟩ := Prod.mk.inj (Option.some.inj withdrew)
    refine ⟨tidied, money, fun place => ?_, fun entry => ?_, (fun none_ => by cases none_),
      fun _ same => ?_⟩
    · unfold State.setVoidStorageItem
      simp only
      by_cases here : place = slot
      · subst here
        exact Or.inr (Function.update_self ..)
      · rw [Function.update_of_ne here, slots]
        exact Or.inl rfl
    · have change := @stored_set stored slot none entry
      have records : stored.stored entry = s.stored entry := by
        unfold State.stored
        rw [slots]
      rw [slots, stood] at change
      simp only [Option.elim_some, Option.elim_none, Nat.add_zero] at change
      have grown := total entry
      unfold State.pieces
      have still : (stored.setVoidStorageItem slot none).inventory = stored.inventory := rfl
      rw [still]
      omega
    · have gone := congrFun same slot
      unfold State.setVoidStorageItem at gone
      simp only [Function.update_self, stood] at gone
      cases gone

theorem withdrawals_withdrawn (ids : List Nat) (s : State) (tidy : s.inventory.Tidy mgr) :
    Withdrawn mgr s (s.withdrawals mgr ids).1 (s.withdrawals mgr ids).2.1 := by
  induction ids generalizing s with
  | nil => exact Withdrawn.refl tidy
  | cons id rest ih =>
    unfold State.withdrawals
    cases withdrew : s.withdraw mgr id with
    | none => exact Withdrawn.refl tidy
    | some first =>
      obtain ⟨middle, items⟩ := first
      have now := withdraw_withdrawn tidy withdrew
      have later := ih middle now.tidy
      simp only
      constructor
      · exact later.tidy
      · rw [later.money, now.money]
      · intro slot
        rcases later.slots slot with same | gone
        · rw [same]
          exact now.slots slot
        · exact Or.inr gone
      · intro entry
        rw [later.pieces, now.pieces]
      · intro none_
        have ⟨none', none''⟩ := List.append_eq_nil_iff.mp none_
        rw [later.nothing none'', now.nothing none']
      · intro some_ same
        by_cases none_ : items = []
        · have start := now.nothing none_
          subst start
          subst none_
          exact later.something (by simpa using some_) same
        -- a slot that was emptied stays empty
        apply now.something none_
        funext slot
        rcases now.slots slot with kept | gone
        · exact kept
        rcases later.slots slot with kept' | gone'
        · rw [← congrFun same slot, kept']
        · rw [← congrFun same slot, gone', gone]

end

/-- Pieces are conserved, no record is overwritten, each deposit costs its price, and an error
leaves everything as it was. -/
def Conserving (mgr : ObjectMgr) (s : State) (request : TransferRequest) : Prop :=
  let after := s.handleVoidStorageTransfer mgr request
  (∀ entry, after.1.pieces entry = s.pieces entry) ∧
  (∀ slot item, s.voidStorageItems slot = some item →
    after.1.voidStorageItems slot = some item ∨ after.1.voidStorageItems slot = none) ∧
  match after.2 with
  | .changes depositItems _ =>
    after.1.money + depositItems.length * voidStorageStoreItem = s.money
  | _ => after.1.inventory = s.inventory ∧ after.1.voidStorageItems = s.voidStorageItems ∧
      after.1.money = s.money

def State.charged (s : State) (cost : Nat) : State :=
  { s with money := (Player.modifyMoney s.money (-(cost : Int))).1 }

/-- The state that the withdrawals start from. -/
def State.paid (mgr : ObjectMgr) (s : State) (itemGuids : List Nat) : State :=
  (s.deposits mgr itemGuids).1.charged ((s.deposits mgr itemGuids).2.length * voidStorageStoreItem)

/-- A transfer that is not refused deposits single pieces that hold nothing, and a withdrawal without
room comes before anything has moved. -/
def Clean (mgr : ObjectMgr) (s : State) (request : TransferRequest) : Prop :=
  s.refusal mgr request = none →
    DepositsPlain mgr s.inventory request.itemGuids ∧
    (((s.paid mgr request.itemGuids).withdrawals mgr request.itemIds).2.2 = true →
      (s.deposits mgr request.itemGuids).2 = [] ∧
      ((s.paid mgr request.itemGuids).withdrawals mgr request.itemIds).2.1 = [])

section

variable (mgr : ObjectMgr) (s : State) (request : TransferRequest)

theorem refusal_none (accepted : s.refusal mgr request = none) :
    request.itemGuids.length ≤ s.getNumOfVoidStorageFreeSlots ∧
      request.itemGuids.length * voidStorageStoreItem ≤ s.money := by
  unfold State.refusal at accepted
  split_ifs at accepted with _ _ _ _ full _ _ poor
  · exact ⟨Nat.not_lt.mp full, Nat.not_lt.mp poor⟩
  · exact ⟨Nat.not_lt.mp full, Nat.not_lt.mp ‹_›⟩

theorem refusal_changes (deposits : List Deposit) (items : List VoidStorageItem) :
    s.refusal mgr request ≠ some (.changes deposits items) := by
  unfold State.refusal
  repeat' split
  all_goals simp

theorem charged_inventory (cost : Nat) : (s.charged cost).inventory = s.inventory := rfl

theorem charged_voidStorageItems (cost : Nat) :
    (s.charged cost).voidStorageItems = s.voidStorageItems := rfl

theorem paid_inventory (guids : List Nat) :
    (s.paid mgr guids).inventory = (s.deposits mgr guids).1.inventory := charged_inventory _ _

theorem paid_voidStorageItems (guids : List Nat) :
    (s.paid mgr guids).voidStorageItems = (s.deposits mgr guids).1.voidStorageItems :=
  charged_voidStorageItems _ _

theorem paid_pieces (guids : List Nat) (entry : Nat) :
    (s.paid mgr guids).pieces entry = (s.deposits mgr guids).1.pieces entry := by
  unfold State.pieces State.stored
  rw [paid_inventory, paid_voidStorageItems]

theorem paid_money {guids : List Nat} (wallet : s.money < 2 ^ 64)
    (affords : (s.deposits mgr guids).2.length * voidStorageStoreItem ≤ s.money)
    (kept : (s.deposits mgr guids).1.money = s.money) :
    (s.paid mgr guids).money =
      s.money - (s.deposits mgr guids).2.length * voidStorageStoreItem := by
  unfold State.paid
  unfold State.charged
  rw [kept, Player.modifyMoney_charge wallet affords]

theorem transfer_accepted (accepted : s.refusal mgr request = none) :
    s.handleVoidStorageTransfer mgr request =
      (((s.paid mgr request.itemGuids).withdrawals mgr request.itemIds).1,
        if ((s.paid mgr request.itemGuids).withdrawals mgr request.itemIds).2.2 then
          .error .inventoryFull
        else .changes (s.deposits mgr request.itemGuids).2
          ((s.paid mgr request.itemGuids).withdrawals mgr request.itemIds).2.1) := by
  have cost : ((s.deposits mgr request.itemGuids).2.length : Int) * voidStorageStoreItem =
      (((s.deposits mgr request.itemGuids).2.length * voidStorageStoreItem : Nat) : Int) := by
    push_cast
    rfl
  have paid : ({ (s.deposits mgr request.itemGuids).1 with
      money := (Player.modifyMoney (s.deposits mgr request.itemGuids).1.money
        (-(((s.deposits mgr request.itemGuids).2.length : Int) * voidStorageStoreItem))).1 } :
          State) = s.paid mgr request.itemGuids := by
    rw [cost]
    rfl
  unfold State.handleVoidStorageTransfer
  rw [accepted]
  simp only
  rw [paid]

theorem transfer_pieces (accepted : s.refusal mgr request = none) (tidy : s.inventory.Tidy mgr)
    (live : s.inventory.Live) :
    (∀ entry, (s.handleVoidStorageTransfer mgr request).1.pieces entry = s.pieces entry) ↔
      DepositsPlain mgr s.inventory request.itemGuids := by
  have deposited := @deposits_deposited mgr request.itemGuids s tidy live
    (refusal_none mgr s request accepted).1
  have withdrawn := withdrawals_withdrawn request.itemIds (s.paid mgr request.itemGuids)
    (by rw [paid_inventory]; exact deposited.tidy)
  rw [transfer_accepted mgr s request accepted, ← deposited.pieces_iff]
  refine forall_congr' fun entry => ?_
  rw [withdrawn.pieces, paid_pieces]

end

def noTemplates : ObjectMgr where
  getItemTemplate := fun _ => none
  lookupLimitCategory := fun _ => none
  itemId_eq := fun _ _ found => by cases found

def stackOf (count : Nat) : StoredItem where
  guid := 5
  entry := 1
  count := count
  owner := 1
  lootGenerated := false
  inTrade := false
  soulBound := false
  bopTradeable := false
  allowedGUIDs := []
  gems := []

def holding (item : StoredItem) : State where
  inventory := { owner := 1, items := fun pos => if pos = (inventorySlotBag0, 23) then item else none }
  voidStorageItems := fun _ => none
  money := 1000000
  nextGuid := 9
  nextItemId := 1

def depositFive : TransferRequest := ⟨true, true, [5], []⟩

theorem holding_items {item there : StoredItem} {pos : Pos}
    (stood : (holding item).inventory.items pos = some there) :
    pos = (inventorySlotBag0, 23) ∧ there = item := by
  simp only [holding] at stood
  split at stood
  · next here => exact ⟨here, (Option.some.inj stood).symm⟩
  · cases stood

theorem holding_tidy (item : StoredItem) : (holding item).inventory.Tidy noTemplates := by
  intro pos occupied
  obtain ⟨there, stood⟩ := Option.ne_none_iff_exists'.mp occupied
  rw [(holding_items stood).1]
  exact Or.inl ⟨rfl, by decide⟩

theorem holding_live {count : Nat} (positive : 0 < count) :
    (holding (stackOf count)).inventory.Live := by
  intro pos item stood
  rw [(holding_items stood).2]
  exact positive

theorem holding_named (count : Nat) :
    (holding (stackOf count)).inventory.getItemByGuid noTemplates 5 =
      some ((inventorySlotBag0, 23), stackOf count) := rfl

theorem holding_free (item : StoredItem) : (holding item).getNumOfVoidStorageFreeSlots = 80 := by
  exact (List.countP_eq_length.mpr fun _ _ => rfl).trans List.length_finRange

theorem holding_accepted (item : StoredItem) :
    (holding item).refusal noTemplates depositFive = none := by
  unfold State.refusal
  rw [holding_free]
  simp [depositFive, holding, voidStorageStoreItem]

end OpenWoW.VoidStorage
