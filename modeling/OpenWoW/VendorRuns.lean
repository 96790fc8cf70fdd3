import OpenWoW.VendorRestock

/-! Runs of looks and purchases at a vendor, and what the looks change. -/
namespace OpenWoW.Vendors

open List Option

variable {getItemTemplate : Nat → Option ItemTemplate} {vItem : VendorItem} {pProto : ItemTemplate}
  {ptime : Nat} {counts other : VendorItemCounts} {vendor : Vendor}

def Event.slot (event : Event) : Nat :=
  match event.act with
  | .look slot _ => slot
  | .buy slot _ _ => slot

variable (vendor) in
def Event.Limited (event : Event) (vItem : VendorItem) (pProto : ItemTemplate) : Prop :=
  vendor.items[event.slot]? = some vItem ∧ 0 < vItem.maxcount ∧
    vendor.getItemTemplate vItem.item = some pProto

variable (vendor) in
/-- What is restocked fits into 32 bits, and an additional look loses no time. -/
def Careful (counts : VendorItemCounts) (event : Event) : Prop :=
  ∀ vItem pProto, event.Limited vendor vItem pProto →
    Unwrapped vItem pProto event.time counts ∧
      (event.additional = true →
        (vItem.refill pProto).Harmless event.time (mark? counts vItem.item))

/-- Times do not go back. -/
def InOrder (events : List Event) : Prop :=
  events.Pairwise fun event later => event.time ≤ later.time

theorem step_look (vendor : Vendor) (counts : VendorItemCounts) (time slot : Nat)
    (additional : Bool) {vItem : VendorItem} (here : vendor.items[slot]? = some vItem) :
    step vendor counts ⟨time, .look slot additional⟩ =
      ((getVendorItemCurrentCount vendor.getItemTemplate time vItem counts).1,
        [(getVendorItemCurrentCount vendor.getItemTemplate time vItem counts).2]) := by
  unfold step
  dsimp only
  rw [here]

theorem step_buy (vendor : Vendor) (counts : VendorItemCounts) (time slot : Nat) (count : UInt8)
    (granted : Bool) {vItem : VendorItem} (here : vendor.items[slot]? = some vItem) :
    step vendor counts ⟨time, .buy slot count granted⟩ =
      buyItemFromVendorSlot vendor time vItem count granted counts := by
  unfold step
  dsimp only
  rw [here]

theorem step_none {event : Event} (none : vendor.items[event.slot]? = none) :
    step vendor counts event = (counts, []) := by
  unfold Event.slot at none
  unfold step
  cases act : event.act with
  | look slot additional =>
    rw [act] at none
    dsimp only at none ⊢
    rw [none]
  | buy slot count granted =>
    rw [act] at none
    dsimp only at none ⊢
    rw [none]

theorem get_unlimited (unlimited : vItem.maxcount = 0) (counts : VendorItemCounts) :
    getVendorItemCurrentCount getItemTemplate ptime vItem counts = (counts, 0) := by
  unfold getVendorItemCurrentCount
  rw [if_pos unlimited, unlimited]

theorem update_unlimited (unlimited : vItem.maxcount = 0) (used : Nat) (counts : VendorItemCounts) :
    updateVendorItemCurrentCount getItemTemplate ptime vItem used counts = (counts, 0) := by
  unfold updateVendorItemCurrentCount
  rw [if_pos unlimited]

theorem buy_unlimited (unlimited : vItem.maxcount = 0) (ptime : Nat) (count : UInt8)
    (granted : Bool) :
    ∃ answers, (∀ answer ∈ answers, answer = 0) ∧ ∀ counts,
      buyItemFromVendorSlot vendor ptime vItem count granted counts = (counts, answers) := by
  unfold buyItemFromVendorSlot
  cases vendor.getItemTemplate vItem.item with
  | none => exact ⟨[], (fun _ none => by cases none), fun _ => rfl⟩
  | some pProto =>
    simp only [unlimited, ne_eq, not_true_eq_false, if_false, update_unlimited unlimited]
    cases granted with
    | true => exact ⟨[0], by simp, fun _ => rfl⟩
    | false => exact ⟨[], (fun _ none => by cases none), fun _ => rfl⟩

theorem buy_limited (limited : 0 < vItem.maxcount)
    (template : vendor.getItemTemplate vItem.item = some pProto) (ptime : Nat) (count : UInt8)
    (granted : Bool) (counts : VendorItemCounts) :
    let looked := getVendorItemCurrentCount vendor.getItemTemplate ptime vItem counts
    let taken := updateVendorItemCurrentCount vendor.getItemTemplate ptime vItem
      (boughtCount vItem pProto (askedCount count)) looked.1
    buyItemFromVendorSlot vendor ptime vItem count granted counts =
      if looked.2 < checkedCount pProto (askedCount count) ∨ granted = false then
        (looked.1, [looked.2])
      else (taken.1, [looked.2, taken.2]) := by
  unfold buyItemFromVendorSlot
  rw [template]
  dsimp only
  rw [if_pos (Nat.pos_iff_ne_zero.mp limited)]
  by_cases short : (getVendorItemCurrentCount vendor.getItemTemplate ptime vItem counts).2 <
      checkedCount pProto (askedCount count)
  · rw [if_pos short, if_pos (Or.inl short)]
  rw [if_neg short]
  cases granted with
  | false => rw [if_neg (by decide), if_pos (Or.inr rfl)]
  | true =>
    rw [if_pos rfl, if_neg (by simpa using short)]
    rfl

variable {now : Nat}

theorem Held.below (held : Held vendor now counts) (there : vItem ∈ vendor.items)
    (limited : 0 < vItem.maxcount) :
    ∀ mark, mark? counts vItem.item = some mark → mark.count ≤ vItem.maxcount :=
  fun mark here => (held vItem there limited mark here).1

section
variable (uniform : vendor.Uniform)
include uniform

theorem Held.get (there : vItem ∈ vendor.items)
    (held : Held vendor ptime counts) :
    (getVendorItemCurrentCount vendor.getItemTemplate ptime vItem counts).2 ≤ vItem.maxcount ∧
      Held vendor ptime
        (getVendorItemCurrentCount vendor.getItemTemplate ptime vItem counts).1 := by
  rcases Nat.eq_zero_or_pos vItem.maxcount with unlimited | limited
  · rw [get_unlimited unlimited]
    exact ⟨Nat.zero_le _, held⟩
  obtain ⟨answer, keeps⟩ := @getVendorItemCurrentCount_keeps vendor.getItemTemplate vItem ptime
    counts (held.below there limited)
  exact ⟨answer, held.keeps uniform there keeps⟩

theorem Held.update (there : vItem ∈ vendor.items)
    (held : Held vendor ptime counts) (used : Nat) :
    (updateVendorItemCurrentCount vendor.getItemTemplate ptime vItem used counts).2 ≤
        vItem.maxcount ∧
      Held vendor ptime
        (updateVendorItemCurrentCount vendor.getItemTemplate ptime vItem used counts).1 := by
  rcases Nat.eq_zero_or_pos vItem.maxcount with unlimited | limited
  · rw [update_unlimited unlimited]
    exact ⟨Nat.zero_le _, held⟩
  obtain ⟨answer, keeps⟩ := @updateVendorItemCurrentCount_keeps vendor.getItemTemplate vItem
    ptime counts (held.below there limited) used
  exact ⟨answer, held.keeps uniform there keeps⟩

theorem step_held {event : Event}
    (held : Held vendor event.time counts) :
    Held vendor event.time (step vendor counts event).1 ∧
      ∀ vItem, vendor.items[event.slot]? = some vItem →
        ∀ answer ∈ (step vendor counts event).2, answer ≤ vItem.maxcount := by
  cases here : vendor.items[event.slot]? with
  | none =>
    rw [step_none here]
    exact ⟨held, nofun⟩
  | some vItem =>
    have there := mem_of_getElem? here
    suffices both : Held vendor event.time (step vendor counts event).1 ∧
        ∀ answer ∈ (step vendor counts event).2, answer ≤ vItem.maxcount from
      ⟨both.1, fun other same => some.inj same ▸ both.2⟩
    obtain ⟨time, ⟨slot, additional⟩ | ⟨slot, count, granted⟩⟩ := event
    · rw [step_look vendor counts time slot additional here]
      obtain ⟨answer, after⟩ := held.get uniform there
      exact ⟨after, by simpa using answer⟩
    · rw [step_buy vendor counts time slot count granted here]
      obtain ⟨answer, after⟩ := held.get uniform there
      rcases Nat.eq_zero_or_pos vItem.maxcount with unlimited | limited
      · obtain ⟨answers, zero, buys⟩ := @buy_unlimited vItem vendor unlimited time count granted
        rw [buys]
        exact ⟨held, fun answer mem => (zero answer mem).trans_le (Nat.zero_le _)⟩
      obtain ⟨pProto, template⟩ := isSome_iff_exists.mp (vendor.templates vItem there)
      obtain ⟨left, later⟩ := after.update uniform there
        (boughtCount vItem pProto (askedCount count))
      rw [buy_limited limited template time count granted counts]
      split
      · exact ⟨after, by simpa using answer⟩
      · exact ⟨later, by simp [answer, left]⟩

/-- An event that both runs have answers the same in both. -/
theorem step_similar {event : Event}
    (similar : Similar vendor event.time counts other) (held : Held vendor event.time counts)
    (heldOther : Held vendor event.time other) (careful : Careful vendor counts event)
    (carefulOther : Careful vendor other event) :
    (step vendor counts event).2 = (step vendor other event).2 ∧
      Similar vendor event.time (step vendor counts event).1 (step vendor other event).1 := by
  cases here : vendor.items[event.slot]? with
  | none =>
    rw [step_none here, step_none here]
    exact ⟨rfl, similar⟩
  | some vItem =>
    have there := mem_of_getElem? here
    obtain ⟨pProto, template⟩ := isSome_iff_exists.mp (vendor.templates vItem there)
    rcases Nat.eq_zero_or_pos vItem.maxcount with unlimited | limited
    · obtain ⟨time, ⟨slot, additional⟩ | ⟨slot, count, granted⟩⟩ := event
      · rw [step_look vendor counts time slot additional here,
          step_look vendor other time slot additional here, get_unlimited unlimited,
          get_unlimited unlimited]
        exact ⟨rfl, similar⟩
      · obtain ⟨answers, -, buys⟩ := @buy_unlimited vItem vendor unlimited time count granted
        rw [step_buy vendor counts time slot count granted here,
          step_buy vendor other time slot count granted here, buys, buys]
        exact ⟨rfl, similar⟩
    · obtain ⟨small, -⟩ := careful vItem pProto ⟨here, limited, template⟩
      obtain ⟨smallOther, -⟩ := carefulOther vItem pProto ⟨here, limited, template⟩
      obtain ⟨answer, after⟩ := similar.get uniform there limited template held heldOther small
        smallOther
      obtain ⟨time, ⟨slot, additional⟩ | ⟨slot, count, granted⟩⟩ := event
      · rw [step_look vendor counts time slot additional here,
          step_look vendor other time slot additional here]
        exact ⟨congrArg (fun left => [left]) answer, after⟩
      · have slow := vendor.incrtimes vItem there limited
        obtain ⟨left, later⟩ := after.update uniform there limited template
          (held.get uniform there).2 (heldOther.get uniform there).2
          (small.get limited slow template (held vItem there limited))
          (smallOther.get limited slow template (heldOther vItem there limited))
          (boughtCount vItem pProto (askedCount count))
        rw [step_buy vendor counts time slot count granted here,
          step_buy vendor other time slot count granted here,
          buy_limited limited template time count granted counts,
          buy_limited limited template time count granted other]
        rw [answer, left]
        split
        · exact ⟨rfl, after⟩
        · exact ⟨rfl, later⟩

theorem step_additional {event : Event}
    (additional : event.additional = true) (similar : Similar vendor event.time counts other)
    (held : Held vendor event.time counts) (careful : Careful vendor counts event) :
    Similar vendor event.time (step vendor counts event).1 other := by
  cases here : vendor.items[event.slot]? with
  | none =>
    rw [step_none here]
    exact similar
  | some vItem =>
    have there := mem_of_getElem? here
    obtain ⟨pProto, template⟩ := isSome_iff_exists.mp (vendor.templates vItem there)
    obtain ⟨time, ⟨slot, isAdditional⟩ | ⟨slot, count, granted⟩⟩ := event
    · rw [step_look vendor counts time slot isAdditional here]
      rcases Nat.eq_zero_or_pos vItem.maxcount with unlimited | limited
      · rw [get_unlimited unlimited]
        exact similar
      · obtain ⟨small, harmless⟩ := careful vItem pProto ⟨here, limited, template⟩
        exact similar.get_left uniform there limited template held small (harmless additional)
    · cases additional

end

def answers (vendor : Vendor) (counts : VendorItemCounts) (events : List Event) :
    List (List Nat) :=
  ((Run.trace (step vendor) counts events).filter fun taken => !taken.input.additional).map
    fun taken => taken.out

/-- The run without the additional looks. -/
def plain (events : List Event) : List Event := events.filter fun event => !event.additional

variable (vendor) in
def AllCareful (counts : VendorItemCounts) (events : List Event) : Prop :=
  ∀ taken ∈ Run.trace (step vendor) counts events, Careful vendor taken.before taken.input

theorem allCareful_cons {event : Event} {events : List Event} :
    AllCareful vendor counts (event :: events) ↔
      Careful vendor counts event ∧ AllCareful vendor (step vendor counts event).1 events := by
  unfold AllCareful
  simp only [Run.trace, forall_mem_cons]
  rfl

theorem Similar.later {later : Nat} (similar : Similar vendor now counts other)
    (held : Held vendor now counts) (heldOther : Held vendor now other) (order : now ≤ later) :
    Similar vendor later counts other := fun vItem there limited pProto template =>
  (similar vItem there limited pProto template).later
    (fun mark here => (held vItem there limited mark here).2)
    (fun mark here => (heldOther vItem there limited mark here).2) order

section
variable (uniform : vendor.Uniform) {events : List Event} (order : InOrder events)
  (after : ∀ event ∈ events, now ≤ event.time)
include uniform order after

theorem answers_eq
    (similar : Similar vendor now counts other) (held : Held vendor now counts)
    (heldOther : Held vendor now other) (careful : AllCareful vendor counts events)
    (carefulOther : AllCareful vendor other (plain events)) :
    answers vendor counts events = answers vendor other (plain events) := by
  induction events generalizing counts other now with
  | nil => rfl
  | cons event events ih =>
    obtain ⟨first, rest⟩ := pairwise_cons.mp order
    have isAfter := after event mem_cons_self
    have similarNow := similar.later held heldOther isAfter
    have heldNow := held.later isAfter
    have heldOtherNow := heldOther.later isAfter
    obtain ⟨carefulNow, carefulRest⟩ := allCareful_cons.mp careful
    obtain ⟨heldNext, -⟩ := step_held uniform heldNow
    cases additional : event.additional with
    | true =>
      have dropped : plain (event :: events) = plain events :=
        filter_cons_of_neg (by simp [additional])
      rw [dropped] at carefulOther ⊢
      have next := ih rest first
        (step_additional uniform additional similarNow heldNow carefulNow) heldNext
        heldOtherNow carefulRest carefulOther
      rw [← next]
      unfold answers
      rw [Run.trace, filter_cons_of_neg (by simp [additional])]
    | false =>
      have kept : plain (event :: events) = event :: plain events :=
        filter_cons_of_pos (by simp [additional])
      rw [kept] at carefulOther ⊢
      obtain ⟨carefulOtherNow, carefulOtherRest⟩ := allCareful_cons.mp carefulOther
      obtain ⟨out, similarNext⟩ := step_similar uniform similarNow heldNow heldOtherNow
        carefulNow carefulOtherNow
      have next := ih rest first similarNext heldNext (step_held uniform heldOtherNow).1
        carefulRest carefulOtherRest
      unfold answers at next ⊢
      rw [Run.trace, Run.trace, filter_cons_of_pos (by simp [additional]),
        filter_cons_of_pos (by simp [additional]), map_cons, map_cons, next]
      exact congrArg (· :: _) out

theorem held_run (held : Held vendor now counts) :
    ∀ taken ∈ Run.trace (step vendor) counts events, Held vendor taken.input.time taken.before := by
  induction events generalizing counts now with
  | nil => exact nofun
  | cons event events ih =>
    obtain ⟨first, rest⟩ := pairwise_cons.mp order
    have heldNow := held.later (after event mem_cons_self)
    intro taken there
    rcases mem_cons.mp there with rfl | later
    · exact heldNow
    · exact ih rest first (step_held uniform heldNow).1 taken later

end

theorem currentCount_fresh (slow : 0 < vItem.incrtime) (count : Nat) :
    currentCount getItemTemplate ptime vItem ⟨count, ptime⟩ = count := by
  unfold currentCount
  rw [if_neg (by dsimp only; omega)]

theorem get_found (limited : vItem.maxcount ≠ 0) (slow : 0 < vItem.incrtime)
    (counts : VendorItemCounts) :
    let looked := getVendorItemCurrentCount getItemTemplate ptime vItem counts
    match looked.1.lookup vItem.item with
    | none => looked.2 = vItem.maxcount
    | some vCount => currentCount getItemTemplate ptime vItem vCount = looked.2 := by
  unfold getVendorItemCurrentCount
  rw [if_neg limited]
  cases here : counts.lookup vItem.item with
  | none =>
    dsimp only
    rw [here]
  | some vCount =>
    dsimp only
    by_cases due : vCount.lastIncrementTime + vItem.incrtime ≤ ptime
    · rw [if_pos due]
      cases template : getItemTemplate vItem.item with
      | none =>
        rw [here]
        dsimp only
        unfold currentCount
        rw [if_pos due, template]
      | some pProto =>
        dsimp only
        by_cases full : vItem.maxcount ≤ vCount.restocked vItem pProto ptime
        · rw [if_pos full]
          rw [EntryMap.lookup_erase, if_pos rfl]
        rw [if_neg full]
        rw [EntryMap.lookup_insert, if_pos rfl]
        exact currentCount_fresh slow _
    · rw [if_neg due]
      rw [here]
      dsimp only
      unfold currentCount
      rw [if_neg due]

theorem update_get (limited : vItem.maxcount ≠ 0) (slow : 0 < vItem.incrtime) (used : Nat)
    (counts : VendorItemCounts) :
    let looked := getVendorItemCurrentCount getItemTemplate ptime vItem counts
    (getVendorItemCurrentCount getItemTemplate ptime vItem
      (updateVendorItemCurrentCount getItemTemplate ptime vItem used looked.1).1).2 =
        looked.2 - used := by
  have found := @get_found getItemTemplate vItem ptime limited slow counts
  -- a mark of the present is not due
  have fresh : ∀ (counts : VendorItemCounts) (count : Nat),
      (getVendorItemCurrentCount getItemTemplate ptime vItem
        (counts.insert vItem.item ⟨count, ptime⟩)).2 = count := by
    intro counts count
    unfold getVendorItemCurrentCount
    rw [if_neg limited, EntryMap.lookup_insert, if_pos rfl]
    dsimp only
    rw [if_neg (by omega)]
  dsimp only at found ⊢
  unfold updateVendorItemCurrentCount
  rw [if_neg limited]
  cases here : (getVendorItemCurrentCount getItemTemplate ptime vItem counts).1.lookup
    vItem.item with
  | none =>
    rw [here] at found
    rw [fresh, found]
  | some vCount =>
    rw [here] at found
    rw [fresh, found]

variable (vendor) in
def left (time : Nat) (vItem : VendorItem) (counts : VendorItemCounts) : Nat :=
  (getVendorItemCurrentCount vendor.getItemTemplate time vItem counts).2

/-- A purchase that is let through, of a limited item whose stock is enough for the check. -/
structure Accepted (vendor : Vendor)
    (taken : Run.Taken VendorItemCounts Event (List Nat)) (vItem : VendorItem)
    (pProto : ItemTemplate) (count : Nat) : Prop where
  limited : taken.input.Limited vendor vItem pProto
  purchase : ∃ slot asked, taken.input.act = .buy slot asked true ∧ askedCount asked = count
  enough : checkedCount pProto count ≤ left vendor taken.input.time vItem taken.before

theorem left_of_accepted {taken : Run.Taken VendorItemCounts Event (List Nat)} {count : Nat}
    (own : taken.after = (step vendor taken.before taken.input).1)
    (accepted : Accepted vendor taken vItem pProto count) :
    left vendor taken.input.time vItem taken.after =
      left vendor taken.input.time vItem taken.before - boughtCount vItem pProto count := by
  obtain ⟨before, ⟨time, act⟩, after, out⟩ := taken
  obtain ⟨⟨here, limited, template⟩, ⟨slot, asked, act_, rfl⟩, enough⟩ := accepted
  obtain rfl : act = .buy slot asked true := act_
  have slow := vendor.incrtimes vItem (mem_of_getElem? here) limited
  change after = (step vendor before ⟨time, .buy slot asked true⟩).1 at own
  rw [step_buy vendor before time slot asked true here,
    buy_limited limited template time asked true before, if_neg ?_] at own
  · subst own
    exact update_get (Nat.pos_iff_ne_zero.mp limited) slow _ before
  · rintro (short | refused)
    · exact absurd enough (Nat.not_le_of_lt short)
    · cases refused

variable (vendor) in
/-- The answers of an event are within the stock, and so is what later looks will tell. -/
def Bounded (taken : Run.Taken VendorItemCounts Event (List Nat)) : Prop :=
  (∀ vItem, vendor.items[taken.input.slot]? = some vItem →
    ∀ answer ∈ taken.out, answer ≤ vItem.maxcount) ∧
  ∀ vItem ∈ vendor.items, ∀ time, left vendor time vItem taken.after ≤ vItem.maxcount

theorem bounded_of_held (uniform : vendor.Uniform) {event : Event}
    (held : Held vendor event.time counts) :
    Bounded vendor (Run.take (step vendor) counts event) := by
  obtain ⟨after, answers⟩ := step_held uniform held
  refine ⟨answers, fun vItem there time => ?_⟩
  rcases Nat.eq_zero_or_pos vItem.maxcount with unlimited | limited
  · unfold left
    rw [get_unlimited unlimited]
    exact Nat.zero_le _
  · exact (getVendorItemCurrentCount_keeps (after.below there limited)).1

theorem held_empty (vendor : Vendor) : Held vendor 0 ∅ := by
  intro vItem _ _ mark here
  cases here

/-- In every run of a vendor with uniform slots the additional looks change no other answer if all
events are careful, and the stock stays within its bounds. A purchase takes what was checked exactly
when this is what was bought, or all that was left. -/
theorem vendor_stock (vendor : Vendor) (events : List Event) (order : InOrder events) :
    (vendor.Uniform → AllCareful vendor ∅ events → AllCareful vendor ∅ (plain events) →
      answers vendor ∅ events = answers vendor ∅ (plain events)) ∧
    (vendor.Uniform → ∀ taken ∈ Run.trace (step vendor) ∅ events, Bounded vendor taken) ∧
    ∀ taken ∈ Run.trace (step vendor) ∅ events, ∀ vItem pProto count,
      Accepted vendor taken vItem pProto count →
        (left vendor taken.input.time vItem taken.after + checkedCount pProto count =
            left vendor taken.input.time vItem taken.before ↔
          checkedCount pProto count = boughtCount vItem pProto count ∨
            checkedCount pProto count = left vendor taken.input.time vItem taken.before ∧
              left vendor taken.input.time vItem taken.before ≤
                boughtCount vItem pProto count) := by
  have start := held_empty vendor
  have after : ∀ event ∈ events, 0 ≤ event.time := fun event _ => Nat.zero_le _
  refine ⟨fun uniform careful carefulPlain => ?_, fun uniform taken there => ?_,
    fun taken there vItem pProto count accepted => ?_⟩
  · exact answers_eq uniform order after (fun _ _ _ _ _ => Or.inl rfl) start start careful
      carefulPlain
  · have held := held_run uniform order after start taken there
    exact Run.taken_of_mem (step vendor) ∅ events taken there ▸ bounded_of_held uniform held
  · have own := Run.taken_of_mem (step vendor) ∅ events taken there
    have enough := accepted.enough
    rw [left_of_accepted (congrArg Run.Taken.after own) accepted]
    omega

/-- Three rare potions, one more every ten seconds. -/
def potionSeller : Vendor where
  items := [⟨858, 3, 10, true⟩]
  getItemTemplate := fun item => if item = 858 then some ⟨1, 100⟩ else none
  templates := by decide
  incrtimes := by decide

theorem potionSeller_uniform : potionSeller.Uniform := by
  intro vItem there other mem _ _ _
  obtain rfl := mem_singleton.mp there
  obtain rfl := mem_singleton.mp mem
  exact ⟨rfl, rfl⟩

/-- A look before the first potion is back makes no difference. -/
def shortLook : List Event :=
  [⟨0, .buy 0 3 true⟩, ⟨9, .look 0 true⟩, ⟨20, .look 0 false⟩]

theorem potionSeller_careful {event : Event} {mark? : Option Refill.Mark}
    (here : Vendors.mark? counts 858 = mark?) (small : ∀ mark, mark? = some mark →
      mark.count + (event.time - mark.since) / 10 * 1 < 2 ^ 32 ∧
        (event.additional = true → event.time < mark.since + 10)) :
    Careful potionSeller counts event := by
  rintro vItem pProto ⟨slot, -, template⟩
  obtain rfl := mem_singleton.mp (mem_of_getElem? slot)
  obtain rfl := some.inj template
  refine ⟨fun mark is => (small mark (here.symm.trans is)).1, fun additional mark is due => ?_⟩
  exact absurd due (Nat.not_le_of_lt ((small mark (here.symm.trans is)).2 additional))

theorem vendor_stock_potions : InOrder shortLook ∧
    answers potionSeller ∅ shortLook = answers potionSeller ∅ (plain shortLook) := by
  have order : InOrder shortLook := by simp [InOrder, shortLook]
  refine ⟨order, (vendor_stock potionSeller shortLook order).1 potionSeller_uniform ?_ ?_⟩
  · refine allCareful_cons.mpr ⟨potionSeller_careful rfl nofun, ?_⟩
    refine allCareful_cons.mpr ⟨potionSeller_careful rfl ?_, ?_⟩
    · intro mark is
      cases is
      decide
    · refine allCareful_cons.mpr ⟨potionSeller_careful rfl ?_, nofun⟩
      intro mark is
      cases is
      decide
  · refine allCareful_cons.mpr ⟨potionSeller_careful rfl nofun, ?_⟩
    refine allCareful_cons.mpr ⟨potionSeller_careful rfl ?_, nofun⟩
    intro mark is
    cases is
    decide

/-- A look after nineteen seconds shows one potion and forgets nine seconds. -/
def longLook : List Event :=
  [⟨0, .buy 0 3 true⟩, ⟨19, .look 0 true⟩, ⟨20, .look 0 false⟩]

theorem looks_change_answers : ¬ ∀ (vendor : Vendor) (events : List Event), InOrder events →
    answers vendor ∅ events = answers vendor ∅ (plain events) := by
  intro same
  have now := same potionSeller longLook (by simp [InOrder, longLook])
  revert now
  decide

end OpenWoW.Vendors
