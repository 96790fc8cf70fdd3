import Mathlib
import OpenWoW.Lib.Run

/-! The buyback slots of a player: what a sale and a buyback make of the items sold before. -/
namespace OpenWoW.BuyBack

open Function

abbrev buybackSlotStart : Nat := 74
abbrev buybackSlotEnd : Nat := 86

/-- An item with the `SellPrice` of its template, if it has one. -/
structure Item where
  guid : Nat
  sellPrice : Option Nat
  count : Nat
  deriving DecidableEq

/-- The items by slot, the fields by their index, and the guids of the items that were set to
`ITEM_REMOVED`. -/
structure Player where
  items : Nat → Option Item
  vendorBuybackSlot : Nat → Nat
  buybackPrice : Nat → Nat
  buybackTimestamp : Nat → Nat
  currentBuybackSlot : Nat
  logintime : Int
  removed : List Nat

namespace Player

def setState (p : Player) (item : Option Item) (del : Bool) : Player :=
  match item with
  | some item => if del then { p with removed := item.guid :: p.removed } else p
  | none => p

def clearSlot (p : Player) (slot : Nat) : Player :=
  { p with
    items := Function.update p.items slot none
    vendorBuybackSlot := Function.update p.vendorBuybackSlot (slot - buybackSlotStart) 0
    buybackPrice := Function.update p.buybackPrice (slot - buybackSlotStart) 0
    buybackTimestamp := Function.update p.buybackTimestamp (slot - buybackSlotStart) 0 }

def removeItemFromBuyBackSlot (p : Player) (slot : Nat) (del : Bool) : Player :=
  if buybackSlotStart ≤ slot ∧ slot < buybackSlotEnd then
    let p := (p.setState (p.items slot) del).clearSlot slot
    if (p.items p.currentBuybackSlot).isSome then { p with currentBuybackSlot := slot } else p
  else p

/-- The loop over the slots from `i` on: where it stops, and the slot of the oldest item. -/
def search (p : Player) : Nat → Nat → Nat → Nat → Nat → Nat × Nat
  | 0, _, slot, _, oldestSlot => (slot, oldestSlot)
  | left + 1, i, slot, oldestTime, oldestSlot =>
    if (p.items i).isNone then (i, oldestSlot)
    else
      let time := p.buybackTimestamp (i - buybackSlotStart)
      if oldestTime > time then search p left (i + 1) slot time i
      else search p left (i + 1) slot oldestTime oldestSlot

def nextSlot (p : Player) : Nat :=
  let slot := p.currentBuybackSlot
  if (p.items slot).isSome then
    let (_, oldestSlot) := p.search (buybackSlotEnd - buybackSlotStart - 1) (buybackSlotStart + 1)
      slot (p.buybackTimestamp 0) buybackSlotStart
    -- an empty slot that was found is not used
    oldestSlot
  else slot

/-- `etime` -/
def saleTime (p : Player) (now : Int) : Nat := ((now - p.logintime + 30 * 3600) % 2 ^ 32).toNat

def setSlot (p : Player) (slot : Nat) (item : Item) (now : Int) : Player :=
  let eslot := slot - buybackSlotStart
  { p with
    items := Function.update p.items slot (some item)
    vendorBuybackSlot := Function.update p.vendorBuybackSlot eslot item.guid
    buybackPrice := Function.update p.buybackPrice eslot
      (match item.sellPrice with
        | some sellPrice => sellPrice * item.count % 2 ^ 32
        | none => 0)
    buybackTimestamp := Function.update p.buybackTimestamp eslot (p.saleTime now) }

def addItemToBuyBackSlot (p : Player) (item : Option Item) (now : Int) : Player :=
  match item with
  | none => p
  | some item =>
    let slot := p.nextSlot
    let p := (p.removeItemFromBuyBackSlot slot true).setSlot slot item now
    if p.currentBuybackSlot < buybackSlotEnd - 1 then
      { p with currentBuybackSlot := p.currentBuybackSlot + 1 }
    else p

end Player

/-- A player who has just logged in. -/
def newPlayer (logintime : Int) : Player where
  items := fun _ => none
  vendorBuybackSlot := fun _ => 0
  buybackPrice := fun _ => 0
  buybackTimestamp := fun _ => 0
  currentBuybackSlot := buybackSlotStart
  logintime
  removed := []

inductive Call where
  | addItem (item : Option Item) (now : Int)
  | removeItem (slot : Nat) (del : Bool)

def step (p : Player) : Call → Player × Unit
  | .addItem item now => (p.addItemToBuyBackSlot item now, ())
  | .removeItem slot del => (p.removeItemFromBuyBackSlot slot del, ())

def OnSale (slot : Nat) : Prop := buybackSlotStart ≤ slot ∧ slot < buybackSlotEnd

/-- The cursor is on a slot, and an empty slot has no time. -/
structure Kept (p : Player) : Prop where
  cursor : OnSale p.currentBuybackSlot
  timeless : ∀ slot, OnSale slot → p.items slot = none →
    p.buybackTimestamp (slot - buybackSlotStart) = 0

def Full (p : Player) : Prop := ∀ slot, OnSale slot → p.items slot ≠ none

/-- A sale with an empty slot leaves every earlier item; otherwise it removes one of the oldest. -/
structure KeepsRecent (p p' : Player) : Prop where
  free : ¬Full p → p'.removed = p.removed ∧
    ∀ slot item, OnSale slot → p.items slot = some item → p'.items slot = some item
  full : Full p → ∃ slot item, OnSale slot ∧ p.items slot = some item ∧
    p'.removed = item.guid :: p.removed ∧
    (∀ other, OnSale other → p.buybackTimestamp (slot - buybackSlotStart) ≤
      p.buybackTimestamp (other - buybackSlotStart)) ∧
    ∀ other, other ≠ slot → p'.items other = p.items other

variable (left : Nat) (logintime : Int) (item : Option Item) (del : Bool)

namespace Player

variable {p : Player} {slot : Nat}

@[simp] theorem items_setState :
    (p.setState item del).items = p.items := by
  cases item <;> cases del <;> rfl

@[simp] theorem buybackTimestamp_setState :
    (p.setState item del).buybackTimestamp = p.buybackTimestamp := by
  cases item <;> cases del <;> rfl

@[simp] theorem currentBuybackSlot_setState :
    (p.setState item del).currentBuybackSlot = p.currentBuybackSlot := by
  cases item <;> cases del <;> rfl

structure Cleared (p p' : Player) (slot : Nat) (del : Bool) : Prop where
  items : p'.items = Function.update p.items slot none
  timestamps : p'.buybackTimestamp = Function.update p.buybackTimestamp (slot - buybackSlotStart) 0
  removed : p'.removed = (p.setState (p.items slot) del).removed
  cursor : p'.currentBuybackSlot = p.currentBuybackSlot ∨ p'.currentBuybackSlot = slot

theorem cleared_removeItemFromBuyBackSlot (onSale : OnSale slot) (del : Bool) :
    Cleared p (p.removeItemFromBuyBackSlot slot del) slot del := by
  unfold removeItemFromBuyBackSlot
  rw [if_pos (show _ ∧ _ from onSale)]
  dsimp only
  split
  · constructor
    · simp [clearSlot]
    · simp [clearSlot]
    · simp [clearSlot]
    · exact .inr rfl
  · constructor
    · simp [clearSlot]
    · simp [clearSlot]
    · simp [clearSlot]
    · exact .inl (by simp [clearSlot])

/-- A slot before another one, with the least time up to there. -/
structure Oldest (p : Player) (slot stop : Nat) : Prop where
  start : buybackSlotStart ≤ slot
  before : slot < stop
  least : ∀ other, buybackSlotStart ≤ other → other < stop →
    p.buybackTimestamp (slot - buybackSlotStart) ≤ p.buybackTimestamp (other - buybackSlotStart)

theorem Oldest.grow {stop oldest : Nat} (isOldest : Oldest p slot stop)
    (start : buybackSlotStart ≤ oldest)
    (upTo : oldest ≤ stop) (least : p.buybackTimestamp (oldest - buybackSlotStart) ≤
      p.buybackTimestamp (slot - buybackSlotStart))
    (last : p.buybackTimestamp (oldest - buybackSlotStart) ≤
      p.buybackTimestamp (stop - buybackSlotStart)) : Oldest p oldest (stop + 1) := by
  refine ⟨start, Nat.lt_succ_of_le upTo, ?_⟩
  intro other from_ within
  rcases Nat.eq_or_lt_of_le (Nat.le_of_lt_succ within) with rfl | less
  · exact last
  · exact Nat.le_trans least (isOldest.least other from_ less)

/-- The search goes up to an empty slot, if there is one. -/
theorem search_spec : ∀ {i oldestSlot : Nat} (slot : Nat), Oldest p oldestSlot i →
    ∃ stop, i ≤ stop ∧ (stop = i + left ∨ stop < i + left ∧ p.items stop = none) ∧
      (∀ other, i ≤ other → other < stop → p.items other ≠ none) ∧
      Oldest p (p.search left i slot
        (p.buybackTimestamp (oldestSlot - buybackSlotStart)) oldestSlot).2 stop := by
  induction left with
  | zero =>
    intro i oldestSlot slot isOldest
    exact ⟨i, Nat.le_refl i, .inl rfl, by omega, isOldest⟩
  | succ left ih =>
    intro i oldestSlot slot isOldest
    unfold search
    split
    · rename_i empty
      exact ⟨i, Nat.le_refl i, .inr ⟨by omega, by simpa using empty⟩, by omega, isOldest⟩
    next filled =>
    have later : ∀ {oldest : Nat}, Oldest p oldest (i + 1) →
        ∃ stop, i ≤ stop ∧ (stop = i + (left + 1) ∨
            stop < i + (left + 1) ∧ p.items stop = none) ∧
          (∀ other, i ≤ other → other < stop → p.items other ≠ none) ∧
          Oldest p (p.search left (i + 1) slot
            (p.buybackTimestamp (oldest - buybackSlotStart)) oldest).2 stop := by
      intro oldest isOldest
      obtain ⟨stop, after, ends, all, rest⟩ := ih slot isOldest
      have same : i + 1 + left = i + (left + 1) := by omega
      rw [same] at ends
      refine ⟨stop, by omega, ends, ?_, rest⟩
      intro other from_ upTo
      rcases Nat.eq_or_lt_of_le from_ with rfl | more
      · simpa using filled
      · exact all other more upTo
    have start := isOldest.start
    have before := isOldest.before
    dsimp only
    split
    · rename_i older
      exact later (isOldest.grow (by omega) (Nat.le_refl i) (Nat.le_of_lt older)
        (Nat.le_refl _))
    next notOlder =>
    exact later (isOldest.grow start (Nat.le_of_lt before) (Nat.le_refl _)
      (Nat.le_of_not_lt notOlder))

theorem search_first : ∀ (i slot oldestSlot : Nat),
    (p.search left i slot 0 oldestSlot).2 = oldestSlot := by
  induction left with
  | zero => exact fun _ _ _ => rfl
  | succ left ih =>
    intro i slot oldestSlot
    unfold search
    split
    · rfl
    rw [if_neg (Nat.not_lt_zero _)]
    exact ih (i + 1) slot oldestSlot

theorem nextSlot_empty (empty : p.items p.currentBuybackSlot = none) :
    p.nextSlot = p.currentBuybackSlot := by
  simp [nextSlot, empty]

theorem nextSlot_filled (filled : p.items p.currentBuybackSlot ≠ none) :
    ∃ stop, buybackSlotStart < stop ∧
      (stop = buybackSlotEnd ∨ stop < buybackSlotEnd ∧ p.items stop = none) ∧
      (∀ other, buybackSlotStart < other → other < stop → p.items other ≠ none) ∧
      Oldest p p.nextSlot stop := by
  have first : Oldest p buybackSlotStart (buybackSlotStart + 1) := by
    refine ⟨Nat.le_refl _, Nat.lt_succ_self _, ?_⟩
    intro other from_ upTo
    obtain rfl := Nat.le_antisymm (Nat.le_of_lt_succ upTo) from_
    exact Nat.le_refl _
  obtain ⟨stop, after, ends, all, oldest⟩ :=
    search_spec (buybackSlotEnd - buybackSlotStart - 1) p.currentBuybackSlot first
  have isSome : (p.items p.currentBuybackSlot).isSome = true := Option.isSome_iff_ne_none.mpr filled
  refine ⟨stop, after, ends, all, ?_⟩
  simp only [nextSlot, isSome, if_true]
  exact oldest

theorem nextSlot_first (empty : p.items buybackSlotStart = none) (kept : Kept p)
    (filled : p.items p.currentBuybackSlot ≠ none) : p.nextSlot = buybackSlotStart := by
  have isSome : (p.items p.currentBuybackSlot).isSome = true := Option.isSome_iff_ne_none.mpr filled
  have timeless := kept.timeless buybackSlotStart ⟨Nat.le_refl _, by decide⟩ empty
  simp only [nextSlot, isSome, if_true]
  rw [show p.buybackTimestamp 0 = 0 from timeless]
  exact search_first _ _ _ _

theorem onSale_nextSlot (kept : Kept p) : OnSale p.nextSlot := by
  by_cases empty : p.items p.currentBuybackSlot = none
  · rw [nextSlot_empty empty]
    exact kept.cursor
  obtain ⟨stop, _, ends, _, oldest⟩ := nextSlot_filled empty
  have before := oldest.before
  refine ⟨oldest.start, ?_⟩
  rcases ends with rfl | ⟨less, _⟩
  · exact before
  · exact Nat.lt_trans before less

@[simp] theorem items_setSlot (item : Item) (now : Int) :
    (p.setSlot slot item now).items = Function.update p.items slot (some item) := rfl

/-- What a sale leaves. -/
structure Sold (p p' : Player) (item : Item) (now : Int) : Prop where
  items : p'.items = Function.update p.items p.nextSlot (some item)
  timestamps : ∃ time, p'.buybackTimestamp =
    Function.update p.buybackTimestamp (p.nextSlot - buybackSlotStart) time
  removed : p'.removed = (p.setState (p.items p.nextSlot) true).removed
  cursor : OnSale p'.currentBuybackSlot

theorem sold_addItemToBuyBackSlot (kept : Kept p) (item : Item) (now : Int) :
    Sold p (p.addItemToBuyBackSlot (some item) now) item now := by
  have onSale := onSale_nextSlot kept
  have cleared := cleared_removeItemFromBuyBackSlot (p := p) onSale true
  unfold addItemToBuyBackSlot
  dsimp only
  generalize p.removeItemFromBuyBackSlot p.nextSlot true = p₁ at cleared
  have items : (p₁.setSlot p.nextSlot item now).items =
      Function.update p.items p.nextSlot (some item) := by
    rw [items_setSlot, cleared.items, update_idem]
  have timestamps : (p₁.setSlot p.nextSlot item now).buybackTimestamp =
      Function.update p.buybackTimestamp (p.nextSlot - buybackSlotStart) (p₁.saleTime now) := by
    show Function.update p₁.buybackTimestamp _ _ = _
    rw [cleared.timestamps, update_idem]
  have cursor : OnSale p₁.currentBuybackSlot := by
    rcases cleared.cursor with same | moved
    · rw [same]
      exact kept.cursor
    · rw [moved]
      exact onSale
  split
  · rename_i more
    have next : p₁.currentBuybackSlot < buybackSlotEnd - 1 := more
    refine ⟨items, ⟨_, timestamps⟩, cleared.removed, ?_⟩
    show buybackSlotStart ≤ p₁.currentBuybackSlot + 1 ∧ p₁.currentBuybackSlot + 1 < buybackSlotEnd
    exact ⟨Nat.le_succ_of_le cursor.1, by omega⟩
  · exact ⟨items, ⟨_, timestamps⟩, cleared.removed, cursor⟩

end Player

variable {p : Player}

theorem kept_newPlayer : Kept (newPlayer logintime) :=
  ⟨⟨Nat.le_refl _, show buybackSlotStart < buybackSlotEnd by decide⟩, fun _ _ _ => rfl⟩

theorem Kept.update {p' : Player} (kept : Kept p) {slot time : Nat} {item : Option Item}
    (onSale : OnSale slot) (items : p'.items = Function.update p.items slot item)
    (timestamps : p'.buybackTimestamp =
      Function.update p.buybackTimestamp (slot - buybackSlotStart) time)
    (timeless : item = none → time = 0) (cursor : OnSale p'.currentBuybackSlot) : Kept p' := by
  refine ⟨cursor, ?_⟩
  intro other isOnSale empty
  rw [items] at empty
  rw [timestamps]
  by_cases same : other = slot
  · rw [same, update_self] at empty ⊢
    exact timeless empty
  rw [update_of_ne same] at empty
  have apart : other - buybackSlotStart ≠ slot - buybackSlotStart := by
    have := isOnSale.1
    have := onSale.1
    omega
  rw [update_of_ne apart]
  exact kept.timeless other isOnSale empty

theorem kept_step (kept : Kept p) (call : Call) : Kept (step p call).1 := by
  cases call with
  | addItem item now =>
    cases item with
    | none => exact kept
    | some item =>
      have sold := p.sold_addItemToBuyBackSlot kept item now
      obtain ⟨time, timestamps⟩ := sold.timestamps
      exact kept.update (p.onSale_nextSlot kept) sold.items timestamps nofun sold.cursor
  | removeItem slot del =>
    by_cases onSale : OnSale slot
    · have cleared := p.cleared_removeItemFromBuyBackSlot onSale del
      refine kept.update onSale cleared.items cleared.timestamps (fun _ => rfl) ?_
      show OnSale (p.removeItemFromBuyBackSlot slot del).currentBuybackSlot
      rcases cleared.cursor with same | moved
      · rw [same]
        exact kept.cursor
      · rw [moved]
        exact onSale
    · show Kept (p.removeItemFromBuyBackSlot slot del)
      rw [Player.removeItemFromBuyBackSlot, if_neg (show ¬(_ ∧ _) from onSale)]
      exact kept

/-- The slot under the cursor or the first slot is empty, or none is. -/
def Call.Finds (p : Player) : Call → Prop
  | .addItem (some _) _ =>
    p.items p.currentBuybackSlot = none ∨ p.items buybackSlotStart = none ∨ Full p
  | _ => True

/-- The requirement for the sales of a run. -/
def Keeps (t : Run.Taken Player Call Unit) : Prop :=
  match t.input with
  | .addItem (some _) _ => KeepsRecent t.before t.after
  | _ => True

theorem keepsRecent_of_empty {p' : Player} {item : Item} {now : Int}
    (sold : Player.Sold p p' item now) (onSale : OnSale p.nextSlot)
    (empty : p.items p.nextSlot = none) : KeepsRecent p p' := by
  refine ⟨fun _ => ⟨?_, ?_⟩, fun full => absurd empty (full _ onSale)⟩
  · rw [sold.removed, empty]
    rfl
  · intro slot old _ here
    have different : slot ≠ p.nextSlot := by
      intro same
      rw [same, empty] at here
      cases here
    rw [sold.items, update_of_ne different]
    exact here

theorem keepsRecent_iff (kept : Kept p) (item : Item) (now : Int) :
    KeepsRecent p (p.addItemToBuyBackSlot (some item) now) ↔
      (Call.addItem (some item) now).Finds p := by
  have sold := p.sold_addItemToBuyBackSlot kept item now
  have onSale := p.onSale_nextSlot kept
  by_cases empty : p.items p.currentBuybackSlot = none
  · refine iff_of_true (keepsRecent_of_empty sold onSale ?_) (.inl empty)
    rw [Player.nextSlot_empty empty]
    exact empty
  by_cases first : p.items buybackSlotStart = none
  · refine iff_of_true (keepsRecent_of_empty sold onSale ?_) (.inr (.inl first))
    rw [Player.nextSlot_first first kept empty]
    exact first
  obtain ⟨stop, after, ends, all, oldest⟩ := Player.nextSlot_filled empty
  have filled : p.items p.nextSlot ≠ none := by
    rcases Nat.eq_or_lt_of_le oldest.start with same | later
    · rw [← same]
      exact first
    · exact all _ later oldest.before
  obtain ⟨old, here⟩ := Option.ne_none_iff_exists'.mp filled
  have removed := sold.removed
  rw [here] at removed
  by_cases full : Full p
  · refine iff_of_true ⟨fun free => absurd full free, fun _ => ?_⟩ (.inr (.inr full))
    refine ⟨p.nextSlot, old, onSale, here, removed, ?_, ?_⟩
    · intro other isOnSale
      apply oldest.least other isOnSale.1
      rcases ends with same | ⟨less, none_⟩
      · rw [same]
        exact isOnSale.2
      · exact absurd none_ (full stop ⟨Nat.le_of_lt after, less⟩)
    · intro other different
      rw [sold.items, update_of_ne different]
  · refine iff_of_false (fun keeps => ?_) (fun finds => ?_)
    · rw [(keeps.free full).1] at removed
      exact List.cons_ne_self _ _ removed.symm
    · rcases finds with cursor | start | isFull
      · exact empty cursor
      · exact first start
      · exact full isFull

/-- In a run of sales and buybacks every sale keeps the most recent items exactly if every sale finds
the slot under the cursor or the first slot empty, or no slot. -/
theorem keeps_recent_iff (calls : List Call) :
    (∀ t ∈ Run.trace step (newPlayer logintime) calls, Keeps t) ↔
      ∀ t ∈ Run.trace step (newPlayer logintime) calls, t.input.Finds t.before := by
  apply Run.good_iff step (fun p call => call.Finds p) Kept Keeps
  · intro p call kept
    cases call with
    | addItem item now =>
      cases item with
      | none => exact Iff.rfl
      | some item => exact keepsRecent_iff kept item now
    | removeItem slot del => exact Iff.rfl
  · exact fun p call kept _ => kept_step kept call
  · exact kept_newPlayer logintime

/-- Twelve sales, two items bought back, and one more sale. -/
def soldAndBoughtBack : List Call :=
  (List.range 12).map (fun i => .addItem (some ⟨i + 1, some 1, 1⟩) i) ++
    [.removeItem 76 false, .removeItem 78 false, .addItem (some ⟨13, some 1, 1⟩) 12]

/-- The next sale takes the place of the first one although a slot is empty. -/
theorem recent_sale_lost :
    ¬∀ t ∈ Run.trace step (newPlayer 0)
      (soldAndBoughtBack ++ [.addItem (some ⟨14, some 1, 1⟩) 13]), Keeps t := by
  intro all
  have last : ∀ p item now, Keeps (Run.take step p (.addItem (some item) now)) →
      KeepsRecent p (p.addItemToBuyBackSlot (some item) now) := fun _ _ _ => id
  have keeps := last (Run.final step (newPlayer 0) soldAndBoughtBack) ⟨14, some 1, 1⟩ 13 <|
    all _ <| by
      rw [Run.trace_append]
      exact List.mem_append_right _ List.mem_cons_self
  have free : ¬Full (Run.final step (newPlayer 0) soldAndBoughtBack) :=
    fun full => full 78 ⟨by decide, by decide⟩ (by decide +kernel)
  have stays := (keeps.free free).2 74 ⟨1, some 1, 1⟩ ⟨by decide, by decide⟩ (by decide +kernel)
  exact absurd stays (by decide +kernel)

end OpenWoW.BuyBack
