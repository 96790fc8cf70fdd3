import OpenWoW.CanStore

/-! The places that `CanStoreItem` may add to a plan, and what each addition keeps. -/
namespace OpenWoW.Storage

open List

namespace Request

/-- A slot of an equipped bag that the item may go into, and the bag is not the item. -/
structure InsideBag (r : Request) (pos : Pos) : Prop where
  holds : r.inv.Holds r.mgr pos
  hosted : r.Hosted pos.1
  goes : ∃ bag bagProto, r.inv.getBagByPos r.mgr pos.1 = some bag ∧
    r.mgr.getItemTemplate bag.entry = some bagProto ∧ itemCanGoIntoBag r.proto bagProto = true

/-- The target stands in no bag, or in one that takes the item. -/
def EmptyTarget (r : Request) : Prop :=
  if r.bag = inventorySlotBag0 then
    ¬((buybackSlotStart ≤ r.slot ∧ r.slot < buybackSlotEnd) ∨ playerSlotEnd ≤ r.slot)
  else ∃ bag bagProto, r.inv.getBagByPos r.mgr r.bag = some bag ∧
    r.mgr.getItemTemplate bag.entry = some bagProto ∧ r.slot < bagProto.containerSlots.val ∧
    itemCanGoIntoBag r.proto bagProto = true

/-- What a step may add to a plan: a place, and the room there. -/
inductive Adds (r : Request) (swap : Bool) : Pos → Nat → Prop
  | backpack (merge : Bool) (pos : Pos) (space : Nat) (body : pos.1 = inventorySlotBag0)
      (inside : inventorySlotItemStart ≤ pos.2 ∧ pos.2 < inventorySlotItemEnd)
      (room : r.space merge pos = some space) : Adds r swap pos space
  | bag (merge : Bool) (pos : Pos) (space : Nat)
      (numbered : pos.1 = r.bag ∨ (inventorySlotBagStart ≤ pos.1 ∧ pos.1 < inventorySlotBagEnd))
      (inside : r.InsideBag pos) (room : r.space merge pos = some space) : Adds r swap pos space
  | target (asked : r.bag ≠ nullBag ∧ r.slot ≠ nullSlot) (notBag : r.notEmptyBag = true →
        isBagPos (r.bag, r.slot) = true)
      (free : swap = true ∨ r.found (r.bag, r.slot) = none) (legal : r.EmptyTarget) :
      Adds r swap (r.bag, r.slot) r.proto.getMaxStackSize
  | stack (asked : r.bag ≠ nullBag ∧ r.slot ≠ nullSlot) (notBag : r.notEmptyBag = true →
        isBagPos (r.bag, r.slot) = true) (found : StoredItem) (new : swap = false)
      (there : r.found (r.bag, r.slot) = some found)
      (merges : found.canBeMergedPartlyWith r.proto = .ok) :
      Adds r swap (r.bag, r.slot) (r.proto.getMaxStackSize - found.count)

variable {r : Request} {swap : Bool} {some_ : Prop} {P : Search → Prop} {s : Search}
  {noSimilar : Nat}

/-- Something is left, if there was something to place at all. -/
def Pending (some_ : Prop) (s : Search) : Prop := some_ → 0 < s.count

/-- Every addition while something is left keeps what is said about a search. -/
def Kept (r : Request) (swap : Bool) (some_ : Prop) (P : Search → Prop) : Prop :=
  ∀ s pos space, r.Adds swap pos space → Pending some_ s → P s → P (s.add pos space)

theorem fill_kept (kept : r.Kept swap some_ P) {merge : Bool} {places : List Pos}
    (adds : ∀ pos ∈ places, ∀ space, r.space merge pos = some space → r.Adds swap pos space)
    (pending : Pending some_ s) (holds : P s) : P (r.fill merge places s) := by
  induction places generalizing s with
  | nil => exact holds
  | cons pos rest ih =>
    have later := fun other member => adds other (mem_cons_of_mem pos member)
    unfold fill
    split
    · exact ih later pending holds
    next space room =>
    have added := kept s pos space (adds pos mem_cons_self space room) pending holds
    split
    · exact ih later pending holds
    simp only
    split
    · exact added
    · next left => exact ih later (fun _ => Nat.pos_of_ne_zero left) added

/-- A pass keeps it, and refuses with an error. -/
structure KeptBy (some_ : Prop) (P : Search → Prop)
    (pass : Search → Except InventoryResult Search) : Prop where
  keeps : ∀ s next, Pending some_ s → P s → pass s = .ok next → P next
  refuses : ∀ s, pass s ≠ .error .ok

theorem inInventorySlots_kept (kept : r.Kept swap some_ P) (merge : Bool) :
    KeptBy some_ P (r.inInventorySlots merge) := by
  constructor
  · intro s next pending holds passed
    unfold inInventorySlots at passed
    split at passed
    · cases passed
    obtain rfl := Except.ok.inj passed
    apply fill_kept kept _ pending holds
    intro pos member space room
    have ⟨inside, _⟩ := mem_filter.mp member
    have ⟨body, range⟩ := (mem_bodySlots _ _ _).mp inside
    exact .backpack merge pos space body range room
  · intro s
    unfold inInventorySlots
    split <;> simp

theorem inBag_kept (kept : r.Kept swap some_ P) {bag : Nat}
    (numbered : bag = r.bag ∨ (inventorySlotBagStart ≤ bag ∧ bag < inventorySlotBagEnd))
    (skipBag : Nat) (merge nonSpecialized : Bool) :
    KeptBy some_ P (r.inBag bag skipBag merge nonSpecialized) := by
  constructor
  · intro s next pending holds passed
    unfold inBag at passed
    split at passed
    · cases passed
    split at passed
    · cases passed
    next there found =>
    split at passed
    · cases passed
    next hosted =>
    split at passed
    · cases passed
    split at passed
    · cases passed
    next bagProto known =>
    split at passed
    · cases passed
    next goes =>
    obtain rfl := Except.ok.inj passed
    apply fill_kept kept _ pending holds
    intro pos member space room
    obtain ⟨slot, inside, rfl⟩ := mem_map.mp member
    have small := mem_range.mp (mem_filter.mp inside).1
    have takes : itemCanGoIntoBag r.proto bagProto = true := by
      by_contra refuses
      exact goes (.inr refuses)
    exact .bag merge _ space numbered ⟨.inr ⟨there, found, small⟩, .inr hosted,
      there, bagProto, found, known, takes⟩ room
  · intro s
    unfold inBag
    split
    · simp
    split
    · simp
    split
    · simp
    split
    · simp
    split
    · simp
    split <;> simp

theorem inAskedBag_kept (kept : r.Kept swap some_ P)
    (merge : Bool) : KeptBy some_ P (r.inAskedBag merge) := by
  have special := inBag_kept kept (.inl rfl) nullBag merge false
  have plain := inBag_kept kept (.inl rfl) nullBag merge true
  constructor
  · intro s next pending holds passed
    unfold inAskedBag at passed
    split at passed
    · rename_i there first
      obtain rfl := Except.ok.inj passed
      exact special.keeps s _ pending holds first
    · exact plain.keeps s next pending holds passed
  · intro s
    unfold inAskedBag
    split
    · simp
    · exact plain.refuses s

theorem inEmptySlot_ok {next : Search} (passed : r.inEmptySlot s = .ok next) :
    r.EmptyTarget ∧ next = s.add (r.bag, r.slot) r.proto.getMaxStackSize := by
  unfold inEmptySlot at passed
  unfold EmptyTarget
  simp only at passed
  split at passed
  · rename_i body
    rw [if_pos body]
    split at passed
    · cases passed
    · next legal => exact ⟨legal, (Except.ok.inj passed).symm⟩
  · rename_i body
    rw [if_neg body]
    split at passed
    · cases passed
    next bagProto known =>
    obtain ⟨bag, there, same⟩ := Option.bind_eq_some_iff.mp known
    split at passed
    · cases passed
    next legal =>
    refine ⟨⟨bag, bagProto, there, same, ?_, ?_⟩, (Except.ok.inj passed).symm⟩
    · exact Nat.not_le.mp fun less => legal (.inl less)
    · by_contra refuses
      exact legal (.inr refuses)

theorem inEmptySlot_refuses (s : Search) : r.inEmptySlot s ≠ .error .ok := by
  unfold inEmptySlot
  split
  · split <;> simp
  split
  · simp
  · split <;> simp

/-- The room that the pass over the slot asked for finds there. -/
inductive TargetRoom (r : Request) (swap : Bool) : Nat → Prop
  | free (empty : swap = true ∨ r.found (r.bag, r.slot) = none) (legal : r.EmptyTarget) :
      TargetRoom r swap r.proto.getMaxStackSize
  | stack (found : StoredItem) (new : swap = false) (there : r.found (r.bag, r.slot) = some found)
      (merges : found.canBeMergedPartlyWith r.proto = .ok) :
      TargetRoom r swap (r.proto.getMaxStackSize - found.count)

theorem inSpecificSlot_ok {s next : Search} (passed : r.inSpecificSlot swap s = .ok next) :
    (r.notEmptyBag = true → isBagPos (r.bag, r.slot) = true) ∧
      ∃ space, r.TargetRoom swap space ∧ next = s.add (r.bag, r.slot) space := by
  unfold inSpecificSlot at passed
  simp only at passed
  split at passed
  · cases passed
  next legal =>
  refine ⟨fun full => ?_, ?_⟩
  · by_contra apart
    exact legal ⟨full, apart⟩
  split at passed
  · rename_i empty
    have free : swap = true ∨ r.found (r.bag, r.slot) = none := by
      cases swap with
      | true => exact .inl rfl
      | false => exact .inr empty
    obtain ⟨target, same⟩ := inEmptySlot_ok passed
    exact ⟨_, .free free target, same⟩
  · rename_i found here
    split at passed
    · rename_i merges
      obtain rfl := Except.ok.inj passed
      cases swap with
      | true => cases here
      | false => exact ⟨_, .stack found rfl here merges, rfl⟩
    · cases passed

theorem inSpecificSlot_kept (kept : r.Kept swap some_ P) (asked : r.bag ≠ nullBag ∧ r.slot ≠ nullSlot) :
    KeptBy some_ P (r.inSpecificSlot swap) := by
  constructor
  · intro s next pending holds passed
    obtain ⟨notBag, space, room, rfl⟩ := inSpecificSlot_ok passed
    cases room with
    | free free legal => exact kept s _ _ (.target asked notBag free legal) pending holds
    | stack found new there merges =>
      exact kept s _ _ (.stack asked notBag found new there merges) pending holds
  · intro s
    unfold inSpecificSlot
    simp only
    split
    · simp
    split
    · exact inEmptySlot_refuses s
    split
    · simp
    · next error wrong => simpa using wrong

/-- What holds of an answer: of its plan, which is whole when everything fits; a refusal of a new item
names what has no space. -/
def Ends (r : Request) (some_ : Prop) (P : Search → Prop) (noSimilar : Nat) :
    Except Outcome Search → Prop
  | .error outcome => ∃ left, P ⟨outcome.dest, left⟩ ∧
      (outcome.result = .ok → left = 0 ∧ noSimilar = 0) ∧
      (r.item = none → outcome.noSpaceCount = toUInt32 (left + noSimilar))
  | .ok s => Pending some_ s ∧ P s

theorem Ends.bind {first : Except Outcome Search} {next : Search → Except Outcome Search}
    (ends : r.Ends some_ P noSimilar first)
    (later : ∀ s, Pending some_ s → P s → r.Ends some_ P noSimilar (next s)) :
    r.Ends some_ P noSimilar (first >>= next) := by
  cases first with
  | error outcome => exact ends
  | ok s => exact later s ends.1 ends.2

theorem settle_ends (holds : P s) : r.Ends some_ P noSimilar (settle noSimilar s) := by
  unfold settle
  split
  · rename_i placed
    have whole : P ⟨s.dest, 0⟩ := by
      rw [← placed]
      exact holds
    split
    · next allowed => exact ⟨0, whole, fun _ => ⟨rfl, allowed⟩, fun _ => by rw [allowed]; rfl⟩
    · exact ⟨0, whole, nofun, fun _ => by rw [placed]⟩
  · next left => exact ⟨fun _ => Nat.pos_of_ne_zero left, holds⟩

variable {pass : Search → Except InventoryResult Search}

theorem strict_ends (keeps : KeptBy some_ P pass) (pending : Pending some_ s) (holds : P s) :
    r.Ends some_ P noSimilar (strict noSimilar pass s) := by
  unfold strict
  split
  · rename_i error failed
    exact ⟨s.count, holds, fun fine => absurd (fine ▸ failed) (keeps.refuses s), fun _ => rfl⟩
  · next next_ passed => exact settle_ends (keeps.keeps s next_ pending holds passed)

theorem lenient_ends (keeps : KeptBy some_ P pass) (pending : Pending some_ s) (holds : P s) :
    r.Ends some_ P noSimilar (lenient noSimilar pass s) := by
  unfold lenient
  split
  · exact ⟨pending, holds⟩
  · next next_ passed => exact settle_ends (keeps.keeps s next_ pending holds passed)

theorem onlyIf_ends {condition : Prop} [Decidable condition]
    {passes : Search → Except Outcome Search} (pending : Pending some_ s) (holds : P s)
    (ends : condition → r.Ends some_ P noSimilar (passes s)) :
    r.Ends some_ P noSimilar (onlyIf condition passes s) := by
  unfold onlyIf
  split
  · next needed => exact ends needed
  · exact ⟨pending, holds⟩

theorem inBags_ends (kept : r.Kept swap some_ P) (merge nonSpecialized : Bool)
    (pending : Pending some_ s) (holds : P s) :
    r.Ends some_ P noSimilar (r.inBags noSimilar merge nonSpecialized s) := by
  have each : ∀ bags : List Nat, (∀ bag ∈ bags, inventorySlotBagStart ≤ bag ∧
      bag < inventorySlotBagEnd) → ∀ s, Pending some_ s → P s →
        r.Ends some_ P noSimilar (bags.foldlM (fun s bag =>
          lenient noSimilar (r.inBag bag r.bag merge nonSpecialized) s) s) := by
    intro bags
    induction bags with
    | nil => exact fun _ _ pending holds => ⟨pending, holds⟩
    | cons bag bags ih =>
      intro numbered s pending holds
      rw [foldlM_cons]
      have number := numbered bag mem_cons_self
      apply Ends.bind (lenient_ends (inBag_kept kept (.inr number) r.bag merge nonSpecialized)
        pending holds)
      exact ih fun other later => numbered other (mem_cons_of_mem _ later)
  apply each _ _ s pending holds
  intro bag there
  have := mem_range'_1.mp there
  simp only [inventorySlotBagStart, inventorySlotBagEnd] at this ⊢
  omega

theorem askedPasses_ends (kept : r.Kept swap some_ P) (pending : Pending some_ s) (holds : P s) :
    r.Ends some_ P noSimilar (r.askedPasses noSimilar s) := by
  have keeps : ∀ merge, KeptBy some_ P
      (if r.bag = inventorySlotBag0 then r.inInventorySlots merge else r.inAskedBag merge) := by
    intro merge
    split
    · exact inInventorySlots_kept kept merge
    · exact inAskedBag_kept kept merge
  apply Ends.bind (onlyIf_ends pending holds fun _ => strict_ends (keeps true) pending holds)
  intro s pending holds
  exact strict_ends (keeps false) pending holds

theorem mergePasses_ends (kept : r.Kept swap some_ P) (pending : Pending some_ s) (holds : P s) :
    r.Ends some_ P noSimilar (r.mergePasses noSimilar s) := by
  apply Ends.bind (strict_ends (inInventorySlots_kept kept true) pending holds)
  intro s pending holds
  apply Ends.bind (onlyIf_ends pending holds fun _ => inBags_ends kept true false pending holds)
  intro s pending holds
  exact inBags_ends kept true true pending holds

theorem refuseBag_ends (full : r.notEmptyBag = true) (holds : P s) :
    r.Ends some_ P noSimilar (refuseBag s) := by
  refine ⟨s.count, holds, nofun, fun new => ?_⟩
  rw [notEmptyBag, new] at full
  cases full

theorem generalPasses_ends (kept : r.Kept swap some_ P) (pending : Pending some_ s) (holds : P s) :
    r.Ends some_ P noSimilar (r.generalPasses noSimilar s) := by
  apply Ends.bind (onlyIf_ends pending holds fun _ => mergePasses_ends kept pending holds)
  intro s pending holds
  apply Ends.bind (onlyIf_ends pending holds fun _ => inBags_ends kept false false pending holds)
  intro s pending holds
  apply Ends.bind (onlyIf_ends pending holds fun full => refuseBag_ends full holds)
  intro s pending holds
  apply Ends.bind (strict_ends (inInventorySlots_kept kept false) pending holds)
  intro s pending holds
  exact inBags_ends kept false true pending holds

theorem passes_ends (kept : r.Kept swap some_ P) (pending : Pending some_ s) (holds : P s) :
    r.Ends some_ P noSimilar (r.passes swap noSimilar s) := by
  apply Ends.bind (onlyIf_ends pending holds fun asked =>
    strict_ends (inSpecificSlot_kept kept asked) pending holds)
  intro s pending holds
  apply Ends.bind (onlyIf_ends pending holds fun _ => askedPasses_ends kept pending holds)
  intro s pending holds
  exact generalPasses_ends kept pending holds

theorem EmptyTarget.holds (target : r.EmptyTarget) : r.inv.Holds r.mgr (r.bag, r.slot) := by
  unfold EmptyTarget at target
  split at target
  · rename_i body
    refine .inl ⟨body, ?_⟩
    simp only [buybackSlotStart, buybackSlotEnd, playerSlotEnd, bankSlotBagEnd] at target ⊢
    omega
  obtain ⟨bag, bagProto, there, known, small, _⟩ := target
  refine .inr ⟨bag, there, ?_⟩
  simp only [StoredItem.bagSize, known, Option.elim_some]
  exact small

theorem holds_of_found {pos : Pos} {found : StoredItem} (there : r.found pos = some found) :
    r.inv.Holds r.mgr pos := by
  simp only [Request.found, Inventory.itemUnless] at there
  split at there
  · cases there
  · exact Inventory.holds_of_getItemByPos there

theorem sound_kept (hosted : r.Hosted r.bag) (start : Nat) :
    r.Kept swap True (r.Sound swap start) := by
  intro s pos space adds pending sound
  have left := pending trivial
  cases adds with
  | backpack merge _ _ body inside room =>
    have ⟨positive, takes⟩ := @takes_of_space r swap merge pos space room
    have holds : r.inv.Holds r.mgr pos := .inl ⟨body, Nat.lt_trans inside.2 (by decide)⟩
    exact sound.add (by omega) holds (.inl body) (takes _ (Nat.min_le_left _ _))
  | bag merge _ _ _ inside room =>
    have ⟨positive, takes⟩ := @takes_of_space r swap merge pos space room
    exact sound.add (by omega) inside.holds inside.hosted (takes _ (Nat.min_le_left _ _))
  | target _ _ free legal =>
    have positive := getMaxStackSize_pos r.proto.toItemTemplate
    exact sound.add (by omega) legal.holds hosted
      (.inl ⟨free.symm.imp id fun swapped => ⟨swapped, rfl⟩, Nat.min_le_left _ _⟩)
  | stack _ _ found _ there merges =>
    have ⟨entry, less⟩ := merged_of_ok merges
    exact sound.add (by omega) (holds_of_found there) hosted (.inr ⟨found, there, entry, by omega⟩)

end Request

/-- What is planned and what is left make up an amount. -/
def Search.Makes (start : Nat) (s : Search) : Prop := (s.dest.map Prod.snd).sum + s.count = start

theorem Request.makes_kept (r : Request) (swap : Bool) (some_ : Prop) (start : Nat) :
    r.Kept swap some_ (Search.Makes start) := by
  intro s pos space _ _ makes
  unfold Search.Makes at makes ⊢
  unfold Search.add
  split
  · exact makes
  simp only [map_append, map_cons, map_nil, sum_append, sum_cons, sum_nil]
  omega

structure Planned (mgr : ObjectMgr) (inv : Inventory) (item : Option SrcItem) (swap : Bool)
    (target : Pos) (entry : Nat) (dest : List (Pos × Nat)) : Prop where
  distinct : (dest.map Prod.fst).Nodup
  holds : ∀ put ∈ dest, inv.Holds mgr put.1
  hosted : ∀ put ∈ dest, put.1.1 = inventorySlotBag0 ∨
    item.bind (·.origin) ≠ some (inventorySlotBag0, put.1.1)
  positive : ∀ put ∈ dest, 0 < put.2
  takes : ∀ put ∈ dest,
    ((inv.itemUnless mgr item put.1 = none ∨ (swap = true ∧ put.1 = target)) ∧
      put.2 ≤ mgr.maxStack entry) ∨
    ∃ found, inv.itemUnless mgr item put.1 = some found ∧ found.entry = entry ∧
      found.count + put.2 ≤ mgr.maxStack entry

theorem Planned.nothing {mgr : ObjectMgr} {inv : Inventory} {item : Option SrcItem} {swap : Bool}
    {target : Pos} {entry : Nat} : Planned mgr inv item swap target entry [] :=
  ⟨nodup_nil, by simp, by simp, by simp, by simp⟩

theorem Request.Sound.planned {r : Request} {swap : Bool} {start : Nat} {s : Search} {entry : Nat}
    (sound : r.Sound swap start s) (known : r.mgr.getItemTemplate entry = some r.proto) :
    Planned r.mgr r.inv r.item swap (r.bag, r.slot) entry s.dest := by
  have largest : r.mgr.maxStack entry = r.proto.getMaxStackSize := by
    simp [ObjectMgr.maxStack, known]
  have id_ := r.mgr.itemId_eq entry r.proto known
  constructor
  · exact sound.distinct
  · exact fun put member => (sound.holds put member).1
  · exact fun put member => (sound.holds put member).2
  · exact fun put member => (sound.takes put member).1
  · intro put member
    rw [largest]
    have takes := (sound.takes put member).2
    unfold Request.Takes at takes
    rwa [id_] at takes

namespace Inventory

variable {mgr : ObjectMgr} {inv : Inventory} {bag slot entry count : Nat} {item : Option SrcItem}
  {swap : Bool}

theorem canTakeMoreSimilarItems_lt (small : count < 2 ^ 32) :
    (inv.canTakeMoreSimilarItems mgr entry count item).2 < 2 ^ 32 := by
  have wraps : ∀ n : Int, toUInt32 n < 2 ^ 32 := by
    intro n
    unfold toUInt32
    omega
  unfold canTakeMoreSimilarItems
  split
  · exact small
  split
  · simp
  split
  · simp
  simp only
  split
  · exact wraps _
  split
  · simp
  split
  · exact small
  split
  · exact wraps _
  · simp

/-- The plan of `CanStoreItem` is one also when it refuses, and places everything when it does
not. -/
theorem canStoreItem_spec (positive : 0 < count) (small : count < 2 ^ 32)
    (hosted : bag = inventorySlotBag0 ∨ item.bind (·.origin) ≠ some (inventorySlotBag0, bag)) :
    Planned mgr inv item swap (bag, slot) entry
      (inv.canStoreItem mgr bag slot entry count item swap).dest ∧
    ((inv.canStoreItem mgr bag slot entry count item swap).result = .ok →
      ((inv.canStoreItem mgr bag slot entry count item swap).dest.map Prod.snd).sum = count) := by
  unfold canStoreItem
  split
  · refine ⟨Planned.nothing, fun fine => ?_⟩
    simp only at fine
    split at fine <;> cases fine
  next proto known =>
  split
  · exact ⟨Planned.nothing, fun fine => by cases fine⟩
  split
  · exact ⟨Planned.nothing, fun fine => by cases fine⟩
  simp only
  split
  · next refused => exact ⟨Planned.nothing, fun fine => absurd fine refused.1⟩
  next allowed =>
  have similarSmall :=
    @canTakeMoreSimilarItems_lt mgr inv entry count item small
  generalize inv.canTakeMoreSimilarItems mgr entry count item = similar at allowed similarSmall ⊢
  generalize startIs : (if similar.1 ≠ .ok then toUInt32 (count - similar.2)
    else count) = start
  have pending : 0 < start := by
    rw [← startIs]
    split
    · rename_i error
      have differs : count ≠ similar.2 := fun same => allowed ⟨error, same⟩
      unfold toUInt32
      omega
    · exact positive
  have whole : similar.2 = 0 → start = count := by
    intro none_
    rw [← startIs, none_]
    split
    · exact toUInt32_of_lt count small
    · rfl
  let request : Request := ⟨mgr, inv, proto, item, bag, slot⟩
  have answers : request.Ends True (request.Sound swap start) similar.2
      (request.passes swap similar.2 ⟨[], start⟩) :=
    Request.passes_ends (@Request.sound_kept request swap hosted start) (fun _ => pending)
      Request.Sound.initial
  generalize request.passes swap similar.2 _ = answer at answers ⊢
  cases answer with
  | error outcome =>
    obtain ⟨left, sound, fine, _⟩ := answers
    refine ⟨sound.planned known, fun isOk => ?_⟩
    have ⟨nothing, allowed⟩ := fine isOk
    have sum := sound.sum
    rw [whole allowed, nothing] at sum
    exact sum
  | ok s => exact ⟨answers.2.planned known, fun fine => by cases fine⟩

end Inventory

theorem Inventory.fits_of_finds {mgr : ObjectMgr} {inv : Inventory} {entry : Nat}
    {dest : List (Pos × Nat)} (distinct : (dest.map Prod.fst).Nodup)
    (holds : ∀ put ∈ dest, inv.Holds mgr put.1) (positive : ∀ put ∈ dest, 0 < put.2)
    (finds : ∀ put ∈ dest, (inv.items put.1 = none ∧ put.2 ≤ mgr.maxStack entry) ∨
      ∃ found, inv.items put.1 = some found ∧ found.entry = entry ∧
        found.count + put.2 ≤ mgr.maxStack entry) : inv.Fits mgr entry dest := by
  refine ⟨distinct, holds, fun put member => ⟨positive put member, ?_⟩, ?_⟩
  · rcases finds put member with ⟨free, small⟩ | ⟨found, there, _, room⟩
    · rw [free]
      simpa using small
    · rw [there]
      exact room
  · intro put member found there
    rcases finds put member with ⟨free, _⟩ | ⟨other, here, same, _⟩
    · rw [free] at there
      cases there
    · rw [here] at there
      exact Option.some.inj there ▸ same

theorem Planned.fits {mgr : ObjectMgr} {inv after : Inventory} {item : Option SrcItem} {swap : Bool}
    {target : Pos} {entry : Nat} {dest : List (Pos × Nat)}
    (planned : Planned mgr inv item swap target entry dest)
    (holds : ∀ put ∈ dest, after.Holds mgr put.1)
    (rest : ∀ put ∈ dest, swap = false ∨ put.1 ≠ target →
      after.items put.1 = inv.itemUnless mgr item put.1)
    (freed : swap = true → after.items target = none) : after.Fits mgr entry dest := by
  refine Inventory.fits_of_finds planned.distinct holds planned.positive fun put member => ?_
  by_cases swapped : swap = true ∧ put.1 = target
  · rcases planned.takes put member with ⟨_, small⟩ | ⟨found, _, _, room⟩
    · exact Or.inl ⟨by rw [swapped.2]; exact freed swapped.1, small⟩
    · exact Or.inl ⟨by rw [swapped.2]; exact freed swapped.1, by omega⟩
  have kept : swap = false ∨ put.1 ≠ target := by
    cases swap with
    | false => exact Or.inl rfl
    | true => exact Or.inr fun same => swapped ⟨rfl, same⟩
  rw [rest put member kept]
  rcases planned.takes put member with ⟨free | swaps, small⟩ | there
  · exact Or.inl ⟨free, small⟩
  · exact absurd swaps swapped
  · exact Or.inr there

theorem Planned.fits_new {mgr : ObjectMgr} {inv : Inventory} {target : Pos} {entry : Nat}
    {dest : List (Pos × Nat)} (planned : Planned mgr inv none false target entry dest) :
    inv.Fits mgr entry dest := by
  apply planned.fits planned.holds
  · intro put member _
    have seen : inv.itemUnless mgr none put.1 = inv.getItemByPos mgr put.1 := by
      simp [Inventory.itemUnless]
    rw [seen, Inventory.getItemByPos_of_holds (planned.holds put member)]
  · intro swapped
    cases swapped

end OpenWoW.Storage
