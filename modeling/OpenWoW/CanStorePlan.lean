import OpenWoW.CanStoreNew

/-! What the plan of `CanStoreItem` promises, and where it does not keep it. -/
namespace OpenWoW.Storage

open List Option

/-- The item of a call: none, one that is not in the inventory, or the one at a position. -/
inductive Source where
  | nothing
  | loose (item : StoredItem)
  | standing (pos : Pos)

/-- `pItem`, if there is one. -/
def Source.item (mgr : ObjectMgr) (inv : Inventory) : Source → Option SrcItem
  | nothing => none
  | loose item => some ⟨item, none⟩
  | standing pos => (inv.getItemByPos mgr pos).map fun item => ⟨item, some pos⟩

/-- The inventory without the item that is moved, and without the one that it is swapped with. -/
def Source.takenOut (mgr : ObjectMgr) (inv : Inventory) (swap : Bool) (target : Pos)
    (source : Source) : Inventory :=
  let freed := if swap then inv.removeItem mgr target else inv
  match source with
  | standing pos => freed.removeItem mgr pos
  | _ => freed

namespace Request

variable (r : Request) (swap : Bool)

/-- A slot of the backpack, or of an equipped bag that takes the item and is not the item. -/
def MayStand (pos : Pos) : Prop :=
  (pos.1 = inventorySlotBag0 ∧ inventorySlotItemStart ≤ pos.2 ∧ pos.2 < inventorySlotItemEnd) ∨
    (inventorySlotBagStart ≤ pos.1 ∧ pos.1 < inventorySlotBagEnd ∧
      r.item.bind (·.origin) ≠ some (inventorySlotBag0, pos.1) ∧
      ∃ bag bagProto, r.inv.getBagByPos r.mgr pos.1 = some bag ∧
        r.mgr.getItemTemplate bag.entry = some bagProto ∧ pos.2 < bag.bagSize r.mgr ∧
        itemCanGoIntoBag r.proto bagProto = true)

def Asked : Prop := r.bag ≠ nullBag ∧ r.slot ≠ nullSlot

/-- A search in which every place but the one asked for may be used. -/
structure Placing (start : Nat) (s : Search) : Prop where
  makes : s.Makes start
  positive : 0 < start → ∀ put ∈ s.dest, 0 < put.2
  distinct : (s.dest.map Prod.fst).Nodup
  stands : ∀ put ∈ s.dest, r.MayStand put.1 ∨ (r.Asked ∧ put.1 = (r.bag, r.slot))
  takes : ∀ put ∈ s.dest, r.Takes swap put.1 put.2

variable {r swap}

variable {space : Nat}

theorem takes_of_target {amount : Nat} (room : r.TargetRoom swap space)
    (small : amount ≤ space) : r.Takes swap (r.bag, r.slot) amount := by
  cases room with
  | free empty _ => exact .inl ⟨empty.symm.imp id fun swapped => ⟨swapped, rfl⟩, small⟩
  | stack found _ there merges =>
    have ⟨entry, less⟩ := merged_of_ok merges
    exact .inr ⟨found, there, entry, by omega⟩

theorem insideBag_mayStand {pos : Pos} (inside : r.InsideBag pos)
    (numbered : inventorySlotBagStart ≤ pos.1 ∧ pos.1 < inventorySlotBagEnd) : r.MayStand pos := by
  obtain ⟨bag, bagProto, found, known, goes⟩ := inside.goes
  have notBody : pos.1 ≠ inventorySlotBag0 := by
    simp only [inventorySlotBag0, inventorySlotBagEnd] at numbered ⊢
    omega
  refine .inr ⟨numbered.1, numbered.2, inside.hosted.resolve_left notBody, bag, bagProto, found,
    known, ?_, goes⟩
  rcases inside.holds with body | ⟨other, there, small⟩
  · exact absurd body.1 notBody
  · rw [found] at there
    exact some.inj there ▸ small

/-- Callers ask for a position of the inventory, or for none. -/
def Checked (bag slot : Nat) : Prop :=
  isInventoryPos (bag, slot) = true ∨ (bag = nullBag ∧ slot = nullSlot)

theorem EmptyTarget.bag (legal : r.EmptyTarget) (inBag : r.bag ≠ inventorySlotBag0) :
    ∃ bag bagProto, r.inv.getBagByPos r.mgr r.bag = some bag ∧
      r.mgr.getItemTemplate bag.entry = some bagProto ∧ r.slot < bagProto.containerSlots.val ∧
      itemCanGoIntoBag r.proto bagProto = true := by
  unfold EmptyTarget at legal
  rwa [if_neg inBag] at legal

theorem getBagByPos_number {bag : Nat} {item : StoredItem} (checked : Checked r.bag r.slot)
    (found : r.inv.getBagByPos r.mgr bag = some item)
    (numbered : bag = r.bag ∨ (inventorySlotBagStart ≤ bag ∧ bag < inventorySlotBagEnd)) :
    inventorySlotBagStart ≤ bag ∧ bag < inventorySlotBagEnd := by
  rcases numbered with rfl | inside
  · have slot := (isBagSlot_iff r.bag).mp (Inventory.getBagByPos_slot found).1
    simp only [Checked, isInventoryPos, inventorySlotBag0, nullBag, nullSlot, inventorySlotItemStart,
      inventorySlotItemEnd, inventorySlotBagStart, inventorySlotBagEnd, Bool.or_eq_true,
      Bool.and_eq_true, beq_iff_eq, decide_eq_true_eq] at checked ⊢
    omega
  · exact inside

theorem targetRoom_pos (room : r.TargetRoom swap space) : 0 < space := by
  cases room with
  | free => exact getMaxStackSize_pos _
  | stack found _ _ merges =>
    have less := (merged_of_ok merges).2
    omega

theorem adds_spec (checked : Checked r.bag r.slot) {pos : Pos} (adds : r.Adds swap pos space) :
    (r.MayStand pos ∨ (r.Asked ∧ pos = (r.bag, r.slot))) ∧ 0 < space ∧
      ∀ amount, amount ≤ space → r.Takes swap pos amount := by
  cases adds with
  | backpack merge _ _ body inside room => exact ⟨.inl (.inl ⟨body, inside⟩), takes_of_space room⟩
  | bag merge _ _ numbered inside room =>
    obtain ⟨bag, _, found, _⟩ := inside.goes
    exact ⟨.inl (insideBag_mayStand inside (getBagByPos_number checked found numbered)),
      takes_of_space room⟩
  | target asked notBag free legal =>
    have room : r.TargetRoom swap r.proto.getMaxStackSize := .free free legal
    exact ⟨.inr ⟨asked, rfl⟩, targetRoom_pos room, fun _ => takes_of_target room⟩
  | stack asked notBag found new there merges =>
    have room := TargetRoom.stack found new there merges
    exact ⟨.inr ⟨asked, rfl⟩, targetRoom_pos room, fun _ => takes_of_target room⟩

theorem placing_kept (checked : Checked r.bag r.slot) (start : Nat) :
    r.Kept swap (0 < start) (r.Placing swap start) := by
  intro s pos space adds pending placing
  obtain ⟨stands, positive, takes⟩ := adds_spec checked adds
  have makes := r.makes_kept swap (0 < start) start s pos space adds pending placing.makes
  unfold Search.add at makes ⊢
  split
  · exact placing
  next fresh =>
  rw [if_neg fresh] at makes
  refine ⟨makes, ?_, ?_, ?_, ?_⟩
  · intro some_ put member
    rcases mem_append.mp member with old | new
    · exact placing.positive some_ put old
    · obtain rfl := mem_singleton.mp new
      exact Nat.lt_min.mpr ⟨positive, pending some_⟩
  · simp only [map_append, map_cons, map_nil]
    exact List.Nodup.append placing.distinct (nodup_singleton _)
      (by simpa [disjoint_singleton] using fresh)
  · intro put member
    rcases mem_append.mp member with old | new
    · exact placing.stands put old
    · obtain rfl := mem_singleton.mp new
      exact stands
  · intro put member
    rcases mem_append.mp member with old | new
    · exact placing.takes put old
    · obtain rfl := mem_singleton.mp new
      exact takes _ (Nat.min_le_left _ _)

theorem inSpecificSlot_of_room {s : Search} (empty : r.notEmptyBag = false)
    (room : r.TargetRoom swap space) :
    r.inSpecificSlot swap s = .ok (s.add (r.bag, r.slot) space) := by
  unfold inSpecificSlot
  simp only [empty, Bool.false_eq_true, false_and, if_false]
  cases room with
  | free free legal =>
    have nobody : (if swap = true then none else r.found (r.bag, r.slot)) = none := by
      rcases free with swapped | none_
      · rw [if_pos swapped]
      · rw [none_, ite_self]
    rw [nobody]
    unfold inEmptySlot
    unfold EmptyTarget at legal
    by_cases body : r.bag = inventorySlotBag0
    · rw [if_pos body] at legal
      simp only [if_pos body]
      rw [if_neg legal]
    rw [if_neg body] at legal
    obtain ⟨bag, bagProto, found, known, small, goes⟩ := legal
    have there : ((r.inv.getBagByPos r.mgr r.bag).bind fun bag =>
        r.mgr.getItemTemplate bag.entry) = some bagProto := by
      rw [found]
      exact known
    simp only [if_neg body, there]
    rw [if_neg]
    rintro (large | refuses)
    · omega
    · exact refuses goes
  | stack found new there merges =>
    simp only [new, Bool.false_eq_true, if_false, there, merges]

/-- The bag asked for is the moved item, or does not take it. -/
def Unfit (r : Request) : Prop :=
  r.item.bind (·.origin) = some (inventorySlotBag0, r.bag) ∨
    ∀ bag bagProto, r.inv.getBagByPos r.mgr r.bag = some bag →
      r.mgr.getItemTemplate bag.entry = some bagProto → itemCanGoIntoBag r.proto bagProto = false

/-- A slot where the item may not stand, although there is room, is in such a bag. -/
theorem unfit_of_room (checked : Checked r.bag r.slot) (asked : r.Asked)
    (unfit : ¬r.MayStand (r.bag, r.slot)) (room : r.TargetRoom swap space) :
    (inventorySlotBagStart ≤ r.bag ∧ r.bag < inventorySlotBagEnd) ∧ r.Unfit := by
  have number : inventorySlotBagStart ≤ r.bag ∧ r.bag < inventorySlotBagEnd := by
    by_contra outside
    apply unfit
    simp only [Checked, isInventoryPos, inventorySlotBag0, nullBag, nullSlot, inventorySlotItemStart,
      inventorySlotItemEnd, inventorySlotBagStart, inventorySlotBagEnd, Bool.or_eq_true,
      Bool.and_eq_true, beq_iff_eq, decide_eq_true_eq] at checked outside
    simp only [Asked, nullBag, nullSlot] at asked
    refine .inl ⟨?_, ?_⟩
    · show r.bag = 255
      omega
    · show 23 ≤ r.slot ∧ r.slot < 39
      omega
  have inBag : r.bag ≠ inventorySlotBag0 := by
    simp only [inventorySlotBag0, inventorySlotBagEnd] at number ⊢
    omega
  refine ⟨number, ?_⟩
  by_contra fit
  obtain ⟨apart, takes⟩ := not_or.mp fit
  have some_ : ∃ bag bagProto, r.inv.getBagByPos r.mgr r.bag = some bag ∧
      r.mgr.getItemTemplate bag.entry = some bagProto ∧
      itemCanGoIntoBag r.proto bagProto = true := by
    by_contra none_
    refine takes fun bag bagProto found known => ?_
    by_contra goes
    exact none_ ⟨bag, bagProto, found, known, Bool.not_eq_false _ ▸ goes⟩
  obtain ⟨bag, bagProto, found, known, goes⟩ := some_
  refine unfit (.inr ⟨number.1, number.2, apart, bag, bagProto, found, known, ?_, goes⟩)
  cases room with
  | free _ legal =>
    obtain ⟨other, otherProto, there, same, small, _⟩ := legal.bag inBag
    obtain rfl := some.inj (found.symm.trans there)
    show r.slot < _
    rw [StoredItem.bagSize, same]
    exact small
  | stack item _ there _ =>
    rcases holds_of_found there with body | ⟨other, there, small⟩
    · exact absurd body.1 inBag
    · obtain rfl := some.inj (found.symm.trans there)
      exact small

theorem inBag_unfit (unfit : r.Unfit) (merge nonSpecialized : Bool) (s : Search) :
    ∃ error, r.inBag r.bag nullBag merge nonSpecialized s = .error error := by
  unfold inBag
  split
  · exact ⟨_, rfl⟩
  split
  · exact ⟨_, rfl⟩
  next bag found =>
  split
  · exact ⟨_, rfl⟩
  next apart =>
  split
  · exact ⟨_, rfl⟩
  split
  · exact ⟨_, rfl⟩
  next bagProto known =>
  split
  · exact ⟨_, rfl⟩
  next goes =>
  exfalso
  apply goes
  right
  rw [unfit.resolve_left apart bag bagProto found known]
  exact Bool.false_ne_true

theorem strict_inAskedBag_unfit (unfit : r.Unfit) (noSimilar : Nat) (merge : Bool) (s : Search) :
    ∃ outcome, strict noSimilar (r.inAskedBag merge) s = .error outcome ∧ outcome.result ≠ .ok := by
  obtain ⟨first, special⟩ := inBag_unfit unfit merge false s
  obtain ⟨second, plain⟩ := inBag_unfit unfit merge true s
  have refused : r.inAskedBag merge s = .error second := by
    rw [inAskedBag, special]
    exact plain
  have error := (inAskedBag_kept (r.makes_kept false False 0) merge).refuses s
  rw [refused] at error
  refine ⟨_, by rw [strict, refused], ?_⟩
  exact fun fine => error (congrArg Except.error fine)

theorem askedPasses_unfit (unfit : r.Unfit) (inBag : r.bag ≠ inventorySlotBag0) (noSimilar : Nat)
    (s : Search) :
    ∃ outcome, r.askedPasses noSimilar s = .error outcome ∧ outcome.result ≠ .ok := by
  unfold askedPasses onlyIf
  simp only [if_neg inBag]
  by_cases several : r.proto.stackable ≠ 1
  · obtain ⟨outcome, refused, error⟩ := strict_inAskedBag_unfit unfit noSimilar true s
    rw [if_pos several, refused]
    exact ⟨outcome, rfl, error⟩
  · rw [if_neg several]
    exact strict_inAskedBag_unfit unfit noSimilar false s

/-- The whole amount has room in the slot asked for, where the item may not stand. -/
structure Misplaces (r : Request) (swap : Bool) (count : Nat) : Prop where
  asked : r.Asked
  empty : r.notEmptyBag = false
  unfit : ¬r.MayStand (r.bag, r.slot)
  room : ∃ space, r.TargetRoom swap space ∧ count ≤ space

theorem passes_misplaces {count : Nat} (misplaces : r.Misplaces swap count) :
    r.passes swap 0 ⟨[], count⟩ = .error ⟨.ok, [((r.bag, r.slot), count)], 0⟩ := by
  obtain ⟨space, room, small⟩ := misplaces.room
  have placed := inSpecificSlot_of_room (s := ⟨[], count⟩) misplaces.empty room
  have added : Search.add ⟨[], count⟩ (r.bag, r.slot) space = ⟨[((r.bag, r.slot), count)], 0⟩ := by
    simp [Search.add, Nat.min_eq_right small]
  rw [added] at placed
  have asked : r.bag ≠ nullBag ∧ r.slot ≠ nullSlot := misplaces.asked
  unfold passes onlyIf
  rw [if_pos asked]
  unfold strict
  rw [placed]
  rfl

/-- Where the item may not stand in the slot asked for, everything goes there or the call refuses. -/
theorem passes_unfit (checked : Checked r.bag r.slot) (asked : r.Asked)
    (unfit : ¬r.MayStand (r.bag, r.slot)) {noSimilar start : Nat} {outcome : Outcome}
    (answer : r.passes swap noSimilar ⟨[], start⟩ = .error outcome) (fine : outcome.result = .ok) :
    r.Misplaces swap start := by
  unfold passes at answer
  rw [onlyIf, if_pos (show r.bag ≠ nullBag ∧ r.slot ≠ nullSlot from asked)] at answer
  cases tried : r.inSpecificSlot swap ⟨[], start⟩ with
  | error error =>
    have refuses := (inSpecificSlot_kept (r.makes_kept swap False 0) asked).refuses ⟨[], start⟩
    rw [strict, tried] at answer
    obtain rfl := Except.error.inj answer
    exact absurd (tried.trans (congrArg Except.error fine)) refuses
  | ok next =>
    obtain ⟨notBag, space, room, rfl⟩ := inSpecificSlot_ok tried
    obtain ⟨number, bad⟩ := unfit_of_room checked asked unfit room
    have inBag : r.bag ≠ inventorySlotBag0 := by
      simp only [inventorySlotBag0, inventorySlotBagEnd] at number ⊢
      omega
    have empty : r.notEmptyBag = false := by
      by_contra full
      have body := notBag (Bool.not_eq_false _ ▸ full)
      simp only [isBagPos, Bool.and_eq_true, beq_iff_eq] at body
      exact inBag body.1
    refine ⟨asked, empty, unfit, space, room, ?_⟩
    by_contra more
    have left : (Search.add ⟨[], start⟩ (r.bag, r.slot) space).count ≠ 0 := by
      simp only [Search.add, map_nil, not_mem_nil, if_false]
      omega
    rw [strict, tried] at answer
    simp only at answer
    rw [settle, if_neg left] at answer
    obtain ⟨refusal, refused, error⟩ := askedPasses_unfit bad inBag noSimilar
      (Search.add ⟨[], start⟩ (r.bag, r.slot) space)
    have stops : (onlyIf (r.bag ≠ nullBag) (r.askedPasses noSimilar)
        (Search.add ⟨[], start⟩ (r.bag, r.slot) space)) = .error refusal := by
      rw [onlyIf, if_pos asked.1, refused]
    have whole : refusal = outcome := by
      have answer : (onlyIf (r.bag ≠ nullBag) (r.askedPasses noSimilar)
        (Search.add ⟨[], start⟩ (r.bag, r.slot) space) >>= r.generalPasses noSimilar) =
          .error outcome := answer
      rw [stops] at answer
      exact Except.error.inj answer
    exact error (whole ▸ fine)

end Request

section Storing

variable {mgr : ObjectMgr} {inv : Inventory}

theorem removeItem_apply (pos place : Pos) : (inv.removeItem mgr pos).items place =
    if place = pos ∧ (inv.getItemByPos mgr pos).isSome then none else inv.items place := by
  unfold Inventory.removeItem
  cases found : inv.getItemByPos mgr pos with
  | none => simp
  | some item =>
    simp only [isSome_some, and_true, Inventory.set_items]
    by_cases same : place = pos
    · rw [if_pos same, same, Function.update_self]
    · rw [if_neg same, Function.update_of_ne same]

theorem getBagByPos_removeItem {pos : Pos} {bag : Nat} (apart : pos ≠ (inventorySlotBag0, bag)) :
    (inv.removeItem mgr pos).getBagByPos mgr bag = inv.getBagByPos mgr bag := by
  have same : (inv.removeItem mgr pos).items (inventorySlotBag0, bag) =
      inv.items (inventorySlotBag0, bag) := by
    rw [removeItem_apply, if_neg fun both => apart both.1.symm]
  unfold Inventory.getBagByPos
  rw [same]

theorem getItemByPos_removeItem {pos place : Pos} (outside : isBagPos pos = false)
    (apart : place ≠ pos) :
    (inv.removeItem mgr pos).getItemByPos mgr place = inv.getItemByPos mgr place := by
  have bag : (inv.removeItem mgr pos).getBagByPos mgr place.1 = inv.getBagByPos mgr place.1 := by
    by_cases slot : isBagSlot place.1 = true
    · apply getBagByPos_removeItem
      rintro rfl
      simp [isBagPos, slot] at outside
    · unfold Inventory.getBagByPos
      rw [if_neg slot, if_neg slot]
  have same : (inv.removeItem mgr pos).items place = inv.items place := by
    rw [removeItem_apply, if_neg fun both => apart both.1]
  unfold Inventory.getItemByPos
  rw [bag, same]

/-- What is left when the moved item and the one it is swapped with are taken out. -/
theorem takenOut_items (swap : Bool) {target : Pos} (outside : isBagPos target = false)
    (source : Source) {place : Pos} (holds : inv.Holds mgr place) :
    (source.takenOut mgr inv swap target).items place =
      if swap = true ∧ place = target then none else inv.itemUnless mgr (source.item mgr inv) place := by
  have seen := Inventory.getItemByPos_of_holds holds
  have freed : ∀ place, inv.Holds mgr place → (if swap then inv.removeItem mgr target
      else inv).items place = if swap = true ∧ place = target then none else inv.items place := by
    intro place holds
    have seen := Inventory.getItemByPos_of_holds holds
    cases swap with
    | false => simp
    | true =>
      simp only [if_true, true_and]
      rw [removeItem_apply]
      by_cases here : place = target
      · subst here
        rw [if_pos rfl, seen]
        cases inv.items place <;> simp
      · rw [if_neg fun both => here both.1, if_neg here]
  by_cases swapped : swap = true ∧ place = target
  · rw [if_pos swapped]
    have gone := (freed place holds).trans (if_pos swapped)
    cases source with
    | nothing => exact gone
    | loose item => exact gone
    | standing pos =>
      show ((if swap then inv.removeItem mgr target else inv).removeItem mgr pos).items place = none
      rw [removeItem_apply, gone, ite_self]
  rw [if_neg swapped]
  have kept := (freed place holds).trans (if_neg swapped)
  cases source with
  | nothing =>
    rw [Inventory.itemUnless, if_neg (fun same => by cases same), seen]
    exact kept
  | loose item =>
    rw [Inventory.itemUnless, if_neg (fun same => by cases same), seen]
    exact kept
  | standing pos =>
    show ((if swap then inv.removeItem mgr target else inv).removeItem mgr pos).items place = _
    rw [removeItem_apply, kept]
    unfold Inventory.itemUnless Source.item
    by_cases here : place = pos
    · subst here
      have looked : (if swap then inv.removeItem mgr target else inv).getItemByPos mgr place =
          inv.getItemByPos mgr place := by
        cases swap with
        | false => rfl
        | true => exact getItemByPos_removeItem outside fun same => swapped ⟨rfl, same⟩
      rw [looked, ← seen]
      cases found : inv.getItemByPos mgr place with
      | none => simp [found]
      | some item => simp [found]
    · rw [if_neg fun both => here both.1, ← seen]
      cases found : inv.getItemByPos mgr pos with
      | none => simp [found]
      | some item => simp [found, Ne.symm here]

/-- A place outside the moved item stays one. -/
theorem takenOut_holds {r : Request} (swap : Bool) {target : Pos} (outside : isBagPos target = false)
    {source : Source} (moved : r.item = source.item r.mgr r.inv) {place : Pos}
    (stands : r.MayStand place) :
    r.inv.Holds r.mgr place ∧ (source.takenOut r.mgr r.inv swap target).Holds r.mgr place := by
  rcases stands with ⟨body, _, upper⟩ | ⟨lower, upper, hosted, bag, bagProto, found, _, small, _⟩
  · have less : place.2 < bankSlotBagEnd := by
      simp only [inventorySlotItemEnd, bankSlotBagEnd] at upper ⊢
      omega
    exact ⟨.inl ⟨body, less⟩, .inl ⟨body, less⟩⟩
  refine ⟨.inr ⟨bag, found, small⟩, .inr ⟨bag, ?_, small⟩⟩
  have slot := (Inventory.getBagByPos_slot found).1
  have freed : (if swap then r.inv.removeItem r.mgr target else r.inv).getBagByPos r.mgr place.1 =
      some bag := by
    cases swap with
    | false => exact found
    | true =>
      rw [if_pos rfl, getBagByPos_removeItem, found]
      rintro rfl
      simp [isBagPos, slot] at outside
  cases source with
  | nothing => exact freed
  | loose item => exact freed
  | standing pos =>
    show ((if swap then r.inv.removeItem r.mgr target else r.inv).removeItem r.mgr pos).getBagByPos
      r.mgr place.1 = some bag
    by_cases here : pos = (inventorySlotBag0, place.1)
    · exfalso
      apply hosted
      have there : r.inv.getItemByPos r.mgr pos = some bag := by
        have stands := (Inventory.getBagByPos_slot found).2.1
        have low := (isBagSlot_iff place.1).mp slot
        rw [← here] at stands
        rw [← stands]
        apply Inventory.getItemByPos_of_holds
        rw [here]
        refine .inl ⟨rfl, ?_⟩
        show place.1 < 74
        omega
      rw [moved, Source.item, there, here]
      rfl
    · rw [getBagByPos_removeItem here, freed]

theorem Request.Placing.fits {r : Request} {swap : Bool} {start : Nat} {s : Search} {entry : Nat}
    {source : Source} (placing : r.Placing swap start s) (some_ : 0 < start)
    (known : r.mgr.getItemTemplate entry = some r.proto) (outside : isBagPos (r.bag, r.slot) = false)
    (moved : r.item = source.item r.mgr r.inv) (stands : ∀ put ∈ s.dest, r.MayStand put.1) :
    (source.takenOut r.mgr r.inv swap (r.bag, r.slot)).Fits r.mgr entry s.dest := by
  have largest : r.mgr.maxStack entry = r.proto.getMaxStackSize := by
    simp [ObjectMgr.maxStack, known]
  have id_ := r.mgr.itemId_eq entry r.proto known
  refine Inventory.fits_of_finds placing.distinct
    (fun put member => (takenOut_holds swap outside moved (stands put member)).2)
    (placing.positive some_) fun put member => ?_
  have left := takenOut_items swap outside source
    (takenOut_holds swap outside moved (stands put member)).1
  rw [largest, left, ← moved]
  by_cases swapped : swap = true ∧ put.1 = (r.bag, r.slot)
  · rw [if_pos swapped]
    rcases placing.takes put member with ⟨_, small⟩ | ⟨found, _, _, room⟩
    · exact .inl ⟨rfl, small⟩
    · exact .inl ⟨rfl, by omega⟩
  rw [if_neg swapped]
  rcases placing.takes put member with ⟨free | swaps, small⟩ | ⟨found, there, same, room⟩
  · exact .inl ⟨free, small⟩
  · exact absurd swaps swapped
  · exact .inr ⟨found, there, same.trans id_, room⟩

end Storing

/-- What a plan of the whole count promises: distinct places where the item may stand, each empty (or
with the moved item, or to be swapped) or with a stack of the entry that has the room; so that storing
an item by it brings the count in, and makes no stack too large. -/
structure SoundPlan (r : Request) (source : Source) (swap : Bool) (entry count : Nat)
    (dest : List (Pos × Nat)) : Prop where
  distinct : (dest.map Prod.fst).Nodup
  whole : (dest.map Prod.snd).sum = count
  stands : ∀ put ∈ dest, r.MayStand put.1
  takes : ∀ put ∈ dest, r.Takes swap put.1 put.2
  stores : 0 < count → ∀ guid item, item.entry = entry →
    let before := source.takenOut r.mgr r.inv swap (r.bag, r.slot)
    let after := (before.storeItem r.mgr guid dest item).2
    (∀ other, after.total other = before.total other + if entry = other then count else 0) ∧
      (before.Stacked r.mgr → after.Stacked r.mgr)

/-- A call that says that everything fits has a sound plan. -/
def KeepsPlan (mgr : ObjectMgr) (inv : Inventory) (source : Source) (bag slot entry count : Nat)
    (swap : Bool) : Prop :=
  (inv.canStoreItem mgr bag slot entry count (source.item mgr inv) swap).result = .ok →
    ∃ proto, mgr.getItemTemplate entry = some proto ∧
      SoundPlan ⟨mgr, inv, proto, source.item mgr inv, bag, slot⟩ source swap entry count
        (inv.canStoreItem mgr bag slot entry count (source.item mgr inv) swap).dest

/-- Nothing else refuses, and everything has room in a slot where the item may not stand. -/
def MisplacesAll (mgr : ObjectMgr) (inv : Inventory) (source : Source) (bag slot entry count : Nat)
    (swap : Bool) : Prop :=
  ∃ proto, mgr.getItemTemplate entry = some proto ∧
    (source.item mgr inv).any (·.item.lootGenerated) = false ∧
    (source.item mgr inv).any (·.item.isBindedNotWith mgr inv.owner) = false ∧
    (inv.canTakeMoreSimilarItems mgr entry count (source.item mgr inv)).1 = .ok ∧
    Request.Misplaces ⟨mgr, inv, proto, source.item mgr inv, bag, slot⟩ swap count

section Call

variable {mgr : ObjectMgr} {inv : Inventory} {item : Option SrcItem} {bag slot entry count : Nat}
  {swap : Bool} {proto : StorageTemplate}

theorem canTakeMore_refused (known : mgr.getItemTemplate entry = some proto)
    (fresh : item.any (·.item.lootGenerated) = false)
    (refused : (inv.canTakeMoreSimilarItems mgr entry count item).1 ≠ .ok) :
    count = (inv.canTakeMoreSimilarItems mgr entry count item).2 ∨
      (inv.canTakeMoreSimilarItems mgr entry count item).2 ≠ 0 := by
  unfold Inventory.canTakeMoreSimilarItems at refused ⊢
  simp only [known, fresh, Bool.false_eq_true, if_false] at refused ⊢
  split_ifs at refused ⊢ with unlimited exceeds alone
  · exact absurd rfl refused
  · right
    rw [excess_eq exceeds.2]
    exact Nat.sub_ne_zero_of_lt exceeds.2
  · exact absurd rfl refused
  · split at refused
    · exact .inl rfl
    · split_ifs at refused ⊢ with above
      · right
        rw [excess_eq above.2]
        exact Nat.sub_ne_zero_of_lt above.2
      · exact absurd rfl refused

/-- Everything fits just when nothing refuses and the passes over the whole count say so. -/
theorem canStoreItem_ok_iff {outcome : Outcome} (fine : outcome.result = .ok) :
    inv.canStoreItem mgr bag slot entry count item swap = outcome ↔
    ∃ proto, mgr.getItemTemplate entry = some proto ∧ item.any (·.item.lootGenerated) = false ∧
      item.any (·.item.isBindedNotWith mgr inv.owner) = false ∧
      (inv.canTakeMoreSimilarItems mgr entry count item).1 = .ok ∧
      Request.passes ⟨mgr, inv, proto, item, bag, slot⟩ swap
        (inv.canTakeMoreSimilarItems mgr entry count item).2 ⟨[], count⟩ = .error outcome := by
  constructor
  · intro answer
    unfold Inventory.canStoreItem at answer
    split at answer
    · rw [← answer] at fine
      simp only at fine
      split at fine <;> cases fine
    next proto known =>
    split at answer
    · rw [← answer] at fine
      cases fine
    next fresh =>
    split at answer
    · rw [← answer] at fine
      cases fine
    next own =>
    have fresh : item.any (·.item.lootGenerated) = false := Bool.not_eq_true _ ▸ fresh
    have refused := @canTakeMore_refused mgr inv item entry count proto known fresh
    simp only at answer
    split at answer
    · rename_i early
      rw [← answer] at fine
      exact absurd fine early.1
    next early =>
    generalize inv.canTakeMoreSimilarItems mgr entry count item = similar at refused answer early ⊢
    have ends := @Request.passes_ends ⟨mgr, inv, proto, item, bag, slot⟩ swap False (fun _ => True)
      ⟨[], if similar.1 ≠ .ok then toUInt32 ((count : Int) - similar.2) else count⟩ similar.2
      (fun _ _ _ _ _ _ => trivial) False.elim trivial
    split at answer
    · rename_i other passed
      subst answer
      rw [passed] at ends
      obtain ⟨_, _, whole, _⟩ := ends
      have none_ := (whole fine).2
      have allowed : similar.1 = .ok := by
        by_contra error
        rcases refused error with same | some_
        · exact early ⟨error, same⟩
        · exact some_ none_
      rw [if_neg (not_not.mpr allowed)] at passed
      exact ⟨proto, known, fresh, Bool.not_eq_true _ ▸ own, allowed, passed⟩
    · rw [← answer] at fine
      cases fine
  · rintro ⟨proto, known, fresh, own, allowed, passed⟩
    unfold Inventory.canStoreItem
    simp only [known, fresh, own, Bool.false_eq_true, if_false]
    rw [if_neg fun early => early.1 allowed, if_neg (not_not.mpr allowed), passed]

theorem canStoreItem_whole
    (fine : (inv.canStoreItem mgr bag slot entry count item swap).result = .ok) :
    ((inv.canStoreItem mgr bag slot entry count item swap).dest.map Prod.snd).sum = count ∧
      ∃ proto, mgr.getItemTemplate entry = some proto := by
  obtain ⟨proto, known, _, _, _, passed⟩ := (canStoreItem_ok_iff fine).mp rfl
  have ends := @Request.passes_ends ⟨mgr, inv, proto, item, bag, slot⟩ swap False
    (Search.Makes count) ⟨[], count⟩ (inv.canTakeMoreSimilarItems mgr entry count item).2
    (Request.makes_kept _ swap False count) False.elim (Nat.zero_add _)
  rw [passed] at ends
  obtain ⟨left, makes, whole, _⟩ := ends
  obtain ⟨rfl, _⟩ := whole fine
  exact ⟨makes, proto, known⟩

theorem Request.Checked.outside (checked : Request.Checked bag slot) :
    isBagPos (bag, slot) = false := by
  simp only [Request.Checked, isInventoryPos, inventorySlotBag0, nullBag, nullSlot,
    inventorySlotItemStart, inventorySlotItemEnd, inventorySlotBagStart, inventorySlotBagEnd,
    Bool.or_eq_true, Bool.and_eq_true, beq_iff_eq, decide_eq_true_eq] at checked
  rw [isBagPos, Bool.and_eq_false_iff, beq_eq_false_iff_ne, ← Bool.not_eq_true, isBagSlot_iff]
  show bag ≠ 255 ∨ ¬((19 ≤ slot ∧ slot < 23) ∨ (67 ≤ slot ∧ slot < 74))
  omega

end Call

section

local instance (priority := 2000) bagSizes_neZero : NeZero (maxBagSize + 1) := ⟨by decide⟩

def StorageTemplate.plainBag : StorageTemplate :=
  { StorageTemplate.once with
    stackable := 1
    maxCount := 0
    itemClass := itemClassContainer
    subClass := itemSubclassContainer
    containerSlots := 4
    isBag := true
    stackable_lt := single_lt }

end

def ObjectMgr.onlyBag : ObjectMgr where
  getItemTemplate := fun entry => if entry = 7 then some .plainBag else none
  lookupLimitCategory := fun _ => none
  itemId_eq := by
    intro entry proto found
    split at found
    · rename_i same
      obtain rfl := Option.some.inj found
      exact same.symm
    · cases found

/-- A bag that is equipped, and nothing else. -/
def Inventory.wornBag : Inventory where
  owner := 1
  items := fun pos =>
    if pos = (inventorySlotBag0, inventorySlotBagStart) then some { StoredItem.two with count := 1 }
    else none

end OpenWoW.Storage
