import OpenWoW.VendorStock

/-! What a look and a purchase do to the stock of an item. -/
namespace OpenWoW.Vendors

def VendorItemCount.mark (vCount : VendorItemCount) : Refill.Mark where
  count := vCount.count
  since := vCount.lastIncrementTime

def VendorItem.refill (vItem : VendorItem) (pProto : ItemTemplate) : Refill where
  capacity := vItem.maxcount
  gain := pProto.buyCount
  period := vItem.incrtime

def mark? (counts : VendorItemCounts) (item : Nat) : Option Refill.Mark :=
  (counts.lookup item).map VendorItemCount.mark

/-- The restocked amount fits into 32 bits. -/
def Unwrapped (vItem : VendorItem) (pProto : ItemTemplate) (ptime : Nat)
    (counts : VendorItemCounts) : Prop :=
  ∀ mark, mark? counts vItem.item = some mark →
    mark.count + (vItem.refill pProto).gained mark ptime < 2 ^ 32

variable {getItemTemplate : Nat → Option ItemTemplate} {vItem : VendorItem} {pProto : ItemTemplate}
  {ptime : Nat} {counts : VendorItemCounts}

theorem mark?_of_lookup {item : Nat} {vCount : VendorItemCount}
    (here : counts.lookup item = some vCount) : mark? counts item = some vCount.mark :=
  congrArg _ here

theorem mark?_same {item : Nat} {mark : Option Refill.Mark} (here : mark? counts item = mark)
    (key : Nat) : mark? counts key = if key = item then mark else mark? counts key := by
  by_cases same : key = item
  · rw [if_pos same, same, here]
  · rw [if_neg same]

theorem mark?_insert (counts : VendorItemCounts) (item : Nat) (vCount : VendorItemCount)
    (key : Nat) :
    mark? (counts.insert item vCount) key =
      if key = item then some vCount.mark else mark? counts key := by
  unfold mark?
  rw [EntryMap.lookup_insert]
  split <;> rfl

theorem mark?_erase (counts : VendorItemCounts) (item key : Nat) :
    mark? (counts.erase item) key = if key = item then none else mark? counts key := by
  unfold mark?
  rw [EntryMap.lookup_erase]
  split <;> rfl

theorem restocked_eq {vCount : VendorItemCount}
    (small : vCount.count + (vItem.refill pProto).gained vCount.mark ptime < 2 ^ 32) :
    vCount.restocked vItem pProto ptime =
      vCount.count + (vItem.refill pProto).gained vCount.mark ptime := by
  unfold VendorItemCount.restocked uint32
  unfold Refill.gained VendorItem.refill VendorItemCount.mark at *
  dsimp only at *
  by_cases none : pProto.buyCount = 0
  · rw [none, Nat.mul_zero] at small ⊢
    exact Nat.mod_eq_of_lt small
  have periods : (ptime - vCount.lastIncrementTime) / vItem.incrtime < 2 ^ 32 := by
    have grows := Nat.le_mul_of_pos_right
      ((ptime - vCount.lastIncrementTime) / vItem.incrtime) (Nat.pos_of_ne_zero none)
    omega
  rw [Nat.mod_eq_of_lt periods, Nat.mod_eq_of_lt small]

section
variable (limited : vItem.maxcount ≠ 0) (template : getItemTemplate vItem.item = some pProto)
  (small : Unwrapped vItem pProto ptime counts)
  (below : ∀ mark, mark? counts vItem.item = some mark → mark.count ≤ vItem.maxcount ∧ mark.since ≤ ptime)
include limited template small below

/-- A look answers the level of the stock, and is a look at its mark. -/
theorem getVendorItemCurrentCount_eq :
    (getVendorItemCurrentCount getItemTemplate ptime vItem counts).2 =
        (vItem.refill pProto).level (mark? counts vItem.item) ptime ∧
      ∀ key, mark? (getVendorItemCurrentCount getItemTemplate ptime vItem counts).1 key =
        if key = vItem.item then (vItem.refill pProto).look ptime (mark? counts vItem.item)
        else mark? counts key := by
  unfold getVendorItemCurrentCount
  rw [if_neg limited]
  cases here : counts.lookup vItem.item with
  | none =>
    have gone : mark? counts vItem.item = none := congrArg _ here
    rw [gone]
    exact ⟨rfl, mark?_same gone⟩
  | some vCount =>
    have marked := mark?_of_lookup here
    obtain ⟨bound, past⟩ := below _ marked
    have restocked := restocked_eq (small _ marked)
    rw [marked]
    dsimp only
    by_cases due : vCount.lastIncrementTime + vItem.incrtime ≤ ptime
    · rw [if_pos due, template]
      dsimp only
      rw [restocked]
      have looks : (vItem.refill pProto).look ptime (some vCount.mark) =
          if vItem.maxcount ≤ vCount.count + (vItem.refill pProto).gained vCount.mark ptime
          then none
          else some ⟨vCount.count + (vItem.refill pProto).gained vCount.mark ptime, ptime⟩ :=
        if_pos due
      rw [looks]
      by_cases full : vItem.maxcount ≤ vCount.count + (vItem.refill pProto).gained vCount.mark ptime
      · rw [if_pos full, if_pos full]
        exact ⟨(Nat.min_eq_left full).symm, mark?_erase counts vItem.item⟩
      rw [if_neg full, if_neg full]
      exact ⟨(Nat.min_eq_right (Nat.le_of_not_le full)).symm, mark?_insert counts vItem.item _⟩
    · rw [if_neg due]
      have early := @Refill.look_early (vItem.refill pProto) ptime vCount.mark
        (Nat.lt_of_not_le due)
      have level := @Refill.level_early (vItem.refill pProto) ptime vCount.mark past
        (Nat.lt_of_not_le due) bound
      rw [early, level]
      exact ⟨rfl, mark?_same marked⟩

theorem updateVendorItemCurrentCount_eq (used : Nat) :
    (updateVendorItemCurrentCount getItemTemplate ptime vItem used counts).2 =
        (vItem.refill pProto).level (mark? counts vItem.item) ptime - used ∧
      ∀ key, mark? (updateVendorItemCurrentCount getItemTemplate ptime vItem used counts).1 key =
        if key = vItem.item then (vItem.refill pProto).take used ptime (mark? counts vItem.item)
        else mark? counts key := by
  unfold updateVendorItemCurrentCount
  rw [if_neg limited]
  cases here : counts.lookup vItem.item with
  | none =>
    have gone : mark? counts vItem.item = none := congrArg _ here
    rw [gone]
    exact ⟨rfl, mark?_insert counts vItem.item _⟩
  | some vCount =>
    have marked := mark?_of_lookup here
    obtain ⟨bound, past⟩ := below _ marked
    have restocked := restocked_eq (small _ marked)
    have level : currentCount getItemTemplate ptime vItem vCount =
        (vItem.refill pProto).level (some vCount.mark) ptime := by
      unfold currentCount
      by_cases due : vCount.lastIncrementTime + vItem.incrtime ≤ ptime
      · rw [if_pos due, template]
        dsimp only
        rw [restocked]
        change _ = min vItem.maxcount
          (vCount.count + (vItem.refill pProto).gained vCount.mark ptime)
        rw [Nat.min_comm, Nat.min_def]
        split <;> split <;> omega
      · rw [if_neg due]
        exact (@Refill.level_early (vItem.refill pProto) ptime vCount.mark past
          (Nat.lt_of_not_le due) bound).symm
    rw [marked]
    dsimp only
    rw [level]
    exact ⟨rfl, mark?_insert counts vItem.item _⟩

end

/-- Limited slots of one item have the same stock and the same time to restock. -/
def Vendor.Uniform (vendor : Vendor) : Prop :=
  ∀ vItem ∈ vendor.items, ∀ other ∈ vendor.items, vItem.item = other.item →
    0 < vItem.maxcount → 0 < other.maxcount →
      vItem.maxcount = other.maxcount ∧ vItem.incrtime = other.incrtime

variable {vendor : Vendor} {other after : VendorItemCounts}

variable (vendor) in
/-- What is kept of the items is no more than their stock, and from before. -/
def Held (now : Nat) (counts : VendorItemCounts) : Prop :=
  ∀ vItem ∈ vendor.items, 0 < vItem.maxcount → ∀ mark, mark? counts vItem.item = some mark →
    mark.count ≤ vItem.maxcount ∧ mark.since ≤ now

variable (vendor) in
/-- Nobody will see a difference. -/
def Similar (now : Nat) (counts other : VendorItemCounts) : Prop :=
  ∀ vItem ∈ vendor.items, 0 < vItem.maxcount → ∀ pProto,
    vendor.getItemTemplate vItem.item = some pProto →
      (vItem.refill pProto).Alike now (mark? counts vItem.item) (mark? other vItem.item)

/-- A call only sets a mark of its own item, of the present and within the stock. -/
def Keeps (vItem : VendorItem) (ptime : Nat) (counts after : VendorItemCounts) : Prop :=
  ∀ key mark, mark? after key = some mark → mark? counts key = some mark ∨
    key = vItem.item ∧ 0 < vItem.maxcount ∧ mark.count ≤ vItem.maxcount ∧ mark.since = ptime

theorem Held.later {now later : Nat} (held : Held vendor now counts) (order : now ≤ later) :
    Held vendor later counts := fun vItem there limited mark here =>
  ⟨(held vItem there limited mark here).1, (held vItem there limited mark here).2.trans order⟩

theorem Held.keeps (uniform : vendor.Uniform) (there : vItem ∈ vendor.items)
    (held : Held vendor ptime counts) (keeps : Keeps vItem ptime counts after) :
    Held vendor ptime after := by
  intro slot mem limited mark here
  rcases keeps slot.item mark here with old | ⟨same, positive, count, since⟩
  · exact held slot mem limited mark old
  · obtain ⟨equal, -⟩ := uniform slot mem vItem there same limited positive
    exact ⟨equal ▸ count, Nat.le_of_eq since⟩

theorem Keeps.refl (vItem : VendorItem) (ptime : Nat) (counts : VendorItemCounts) :
    Keeps vItem ptime counts counts := fun _ _ here => Or.inl here

theorem Keeps.insert {count : Nat} (limited : 0 < vItem.maxcount) (below : count ≤ vItem.maxcount) :
    Keeps vItem ptime counts (counts.insert vItem.item ⟨count, ptime⟩) := by
  intro key mark here
  rw [mark?_insert] at here
  split at here
  · rename_i same
    cases here
    exact Or.inr ⟨same, limited, below, rfl⟩
  · exact Or.inl here

theorem Keeps.erase : Keeps vItem ptime counts (counts.erase vItem.item) := by
  intro key mark here
  rw [mark?_erase] at here
  split at here
  · cases here
  · exact Or.inl here

theorem getVendorItemCurrentCount_keeps
    (below : ∀ mark, mark? counts vItem.item = some mark → mark.count ≤ vItem.maxcount) :
    (getVendorItemCurrentCount getItemTemplate ptime vItem counts).2 ≤ vItem.maxcount ∧
      Keeps vItem ptime counts
        (getVendorItemCurrentCount getItemTemplate ptime vItem counts).1 := by
  have refl := Keeps.refl vItem ptime counts
  unfold getVendorItemCurrentCount
  by_cases unlimited : vItem.maxcount = 0
  · rw [if_pos unlimited]
    exact ⟨Nat.le_refl _, refl⟩
  rw [if_neg unlimited]
  have limited := Nat.pos_of_ne_zero unlimited
  cases here : counts.lookup vItem.item with
  | none => exact ⟨Nat.le_refl _, refl⟩
  | some vCount =>
    have bound : vCount.count ≤ vItem.maxcount := below _ (mark?_of_lookup here)
    dsimp only
    by_cases due : vCount.lastIncrementTime + vItem.incrtime ≤ ptime
    · rw [if_pos due]
      cases getItemTemplate vItem.item with
      | none => exact ⟨bound, refl⟩
      | some pProto =>
        dsimp only
        by_cases full : vItem.maxcount ≤ vCount.restocked vItem pProto ptime
        · rw [if_pos full]
          exact ⟨Nat.le_refl _, Keeps.erase⟩
        rw [if_neg full]
        have less := Nat.le_of_not_le full
        exact ⟨less, Keeps.insert limited less⟩
    · rw [if_neg due]
      exact ⟨bound, refl⟩

theorem updateVendorItemCurrentCount_keeps (below : ∀ mark,
      mark? counts vItem.item = some mark → mark.count ≤ vItem.maxcount) (used : Nat) :
    (updateVendorItemCurrentCount getItemTemplate ptime vItem used counts).2 ≤ vItem.maxcount ∧
      Keeps vItem ptime counts
        (updateVendorItemCurrentCount getItemTemplate ptime vItem used counts).1 := by
  unfold updateVendorItemCurrentCount
  by_cases unlimited : vItem.maxcount = 0
  · rw [if_pos unlimited]
    exact ⟨Nat.zero_le _, Keeps.refl vItem ptime counts⟩
  rw [if_neg unlimited]
  have limited := Nat.pos_of_ne_zero unlimited
  cases here : counts.lookup vItem.item with
  | none => exact ⟨Nat.sub_le _ _, Keeps.insert limited (Nat.sub_le _ _)⟩
  | some vCount =>
    have bound : vCount.count ≤ vItem.maxcount := below _ (mark?_of_lookup here)
    have current : currentCount getItemTemplate ptime vItem vCount ≤ vItem.maxcount := by
      unfold currentCount
      split
      · split
        · dsimp only
          split <;> omega
        · exact bound
      · exact bound
    have less := (Nat.sub_le (currentCount getItemTemplate ptime vItem vCount) used).trans current
    exact ⟨less, Keeps.insert limited less⟩

theorem Similar.one {now : Nat} {next nextOther : VendorItemCounts} (uniform : vendor.Uniform)
    (there : vItem ∈ vendor.items) (limited : 0 < vItem.maxcount)
    (template : vendor.getItemTemplate vItem.item = some pProto)
    (similar : Similar vendor now counts other) {mark otherMark : Option Refill.Mark}
    (changes : ∀ key, mark? next key = if key = vItem.item then mark else mark? counts key)
    (changesOther : ∀ key, mark? nextOther key =
      if key = vItem.item then otherMark else mark? other key)
    (alike : (vItem.refill pProto).Alike now mark otherMark) :
    Similar vendor now next nextOther := by
  intro slot mem positive proto found
  rw [changes, changesOther]
  by_cases same : slot.item = vItem.item
  · rw [if_pos same, if_pos same]
    obtain ⟨maxcount, incrtime⟩ := uniform slot mem vItem there same positive limited
    obtain rfl : proto = pProto := Option.some.inj (found.symm.trans (same ▸ template))
    have equal : slot.refill proto = vItem.refill proto := by
      unfold VendorItem.refill
      rw [maxcount, incrtime]
    exact equal ▸ alike
  · rw [if_neg same, if_neg same]
    exact similar slot mem positive proto found

section
variable (uniform : vendor.Uniform) (there : vItem ∈ vendor.items) (limited : 0 < vItem.maxcount)
  (template : vendor.getItemTemplate vItem.item = some pProto)
  (similar : Similar vendor ptime counts other) (held : Held vendor ptime counts)
include uniform there limited template similar held

theorem Similar.get
    (heldOther : Held vendor ptime other) (small : Unwrapped vItem pProto ptime counts)
    (smallOther : Unwrapped vItem pProto ptime other) :
    (getVendorItemCurrentCount vendor.getItemTemplate ptime vItem counts).2 =
        (getVendorItemCurrentCount vendor.getItemTemplate ptime vItem other).2 ∧
      Similar vendor ptime
        (getVendorItemCurrentCount vendor.getItemTemplate ptime vItem counts).1
        (getVendorItemCurrentCount vendor.getItemTemplate ptime vItem other).1 := by
  have positive := Nat.pos_iff_ne_zero.mp limited
  obtain ⟨answer, changes⟩ := getVendorItemCurrentCount_eq positive template small
    (held vItem there limited)
  obtain ⟨answerOther, changesOther⟩ := getVendorItemCurrentCount_eq positive template smallOther
    (heldOther vItem there limited)
  have alike := similar vItem there limited pProto template
  refine ⟨?_, similar.one uniform there limited template changes changesOther alike.look⟩
  rw [answer, answerOther, alike.level]

theorem Similar.get_left
    (small : Unwrapped vItem pProto ptime counts)
    (harmless : (vItem.refill pProto).Harmless ptime (mark? counts vItem.item)) :
    Similar vendor ptime
      (getVendorItemCurrentCount vendor.getItemTemplate ptime vItem counts).1 other := by
  obtain ⟨-, changes⟩ := getVendorItemCurrentCount_eq (Nat.pos_iff_ne_zero.mp limited) template
    small (held vItem there limited)
  exact similar.one uniform there limited template changes (mark?_same rfl)
    ((similar vItem there limited pProto template).look_left harmless)

theorem Similar.update
    (heldOther : Held vendor ptime other) (small : Unwrapped vItem pProto ptime counts)
    (smallOther : Unwrapped vItem pProto ptime other) (used : Nat) :
    (updateVendorItemCurrentCount vendor.getItemTemplate ptime vItem used counts).2 =
        (updateVendorItemCurrentCount vendor.getItemTemplate ptime vItem used other).2 ∧
      Similar vendor ptime
        (updateVendorItemCurrentCount vendor.getItemTemplate ptime vItem used counts).1
        (updateVendorItemCurrentCount vendor.getItemTemplate ptime vItem used other).1 := by
  have positive := Nat.pos_iff_ne_zero.mp limited
  obtain ⟨answer, changes⟩ := updateVendorItemCurrentCount_eq positive template small
    (held vItem there limited) used
  obtain ⟨answerOther, changesOther⟩ := updateVendorItemCurrentCount_eq positive template
    smallOther (heldOther vItem there limited) used
  have alike := similar vItem there limited pProto template
  refine ⟨?_, similar.one uniform there limited template changes changesOther
    (Or.inl (alike.take used))⟩
  rw [answer, answerOther, alike.level]

end

theorem Unwrapped.get (limited : 0 < vItem.maxcount) (slow : 0 < vItem.incrtime)
    (template : getItemTemplate vItem.item = some pProto)
    (small : Unwrapped vItem pProto ptime counts)
    (below : ∀ mark, mark? counts vItem.item = some mark →
      mark.count ≤ vItem.maxcount ∧ mark.since ≤ ptime) :
    Unwrapped vItem pProto ptime
      (getVendorItemCurrentCount getItemTemplate ptime vItem counts).1 := by
  obtain ⟨-, changes⟩ := getVendorItemCurrentCount_eq (Nat.pos_iff_ne_zero.mp limited) template
    small below
  intro mark here
  rw [changes, if_pos rfl] at here
  rcases @Refill.look_cases (vItem.refill pProto) _ _ slow mark here with
    same | ⟨old, was, count, -, -, none⟩
  · exact small mark same
  · rw [none, count, Nat.add_zero]
    exact small old was

end OpenWoW.Vendors
