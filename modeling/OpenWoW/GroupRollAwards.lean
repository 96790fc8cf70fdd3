import Mathlib.Data.List.Induction
import OpenWoW.Group
import OpenWoW.LootSteps

/-! What becomes of an item when its roll is counted. -/
namespace OpenWoW.Groups

open List Option

open Looting (LootItem Loot)

/-- All before have less, and none behind has more. -/
def FirstMax {α : Type} (score : α → Nat) (xs : List α) (x : α) : Prop :=
  ∃ before after, xs = before ++ x :: after ∧ (∀ y ∈ before, score y < score x) ∧
    ∀ y ∈ after, score y ≤ score x

namespace FirstMax

variable {α : Type} {score : α → Nat} {xs : List α} {x y : α}

theorem mem (first : FirstMax score xs x) : x ∈ xs := by
  obtain ⟨before, after, rfl, _, _⟩ := first
  exact mem_append_right _ mem_cons_self

theorem le (first : FirstMax score xs x) (there : y ∈ xs) : score y ≤ score x := by
  obtain ⟨before, after, rfl, less, notMore⟩ := first
  rcases mem_append.mp there with earlier | later
  · exact Nat.le_of_lt (less y earlier)
  rcases mem_cons.mp later with rfl | later
  · exact Nat.le_refl _
  · exact notMore y later

theorem unique (first : FirstMax score xs x) (other : FirstMax score xs y) : x = y := by
  obtain ⟨before, after, rfl, less, notMore⟩ := first
  obtain ⟨before', after', same, less', notMore'⟩ := other
  rcases append_eq_append_iff.mp same with ⟨middle, rfl, eq⟩ | ⟨middle, rfl, eq⟩
  · cases middle with
    | nil => exact (List.cons.inj eq).1
    | cons z middle =>
      obtain ⟨rfl, rfl⟩ := List.cons.inj eq
      have early := less' x (mem_append_right _ mem_cons_self)
      have late := notMore y (mem_append_right _ mem_cons_self)
      omega
  · cases middle with
    | nil => exact (List.cons.inj eq).1.symm
    | cons z middle =>
      obtain ⟨rfl, rfl⟩ := List.cons.inj eq
      have early := less y (mem_append_right _ mem_cons_self)
      have late := notMore' x (mem_append_right _ mem_cons_self)
      omega

theorem concat (first : FirstMax score xs x) (y : α) :
    FirstMax score (xs ++ [y]) (if score x < score y then y else x) := by
  obtain ⟨before, after, rfl, less, notMore⟩ := id first
  split
  · rename_i more
    refine ⟨before ++ x :: after, [], rfl, fun z there => ?_, fun z there => ?_⟩
    · exact Nat.lt_of_le_of_lt (first.le there) more
    · exact absurd there not_mem_nil
  next notMoreY =>
  refine ⟨before, after ++ [y], by simp, less, fun z there => ?_⟩
  rcases mem_append.mp there with old | new
  · exact notMore z old
  · rw [mem_singleton.mp new]
    exact Nat.le_of_not_lt notMoreY

end FirstMax

namespace Roll

theorem winner_spec (urand : Nat → Nat) (draws : ∀ player, 1 ≤ urand player)
    (takesPart : RollVote → Bool) (votes : PlayerVote) (first : Nat) :
    (votes.filter (fun entry => takesPart entry.2) = [] ∧
        winner urand takesPart votes first = ⟨first, 0, .notValid⟩) ∨
      ∃ entry, FirstMax (fun entry => urand entry.1)
          (votes.filter fun entry => takesPart entry.2) entry ∧
        winner urand takesPart votes first = ⟨entry.1, urand entry.1, entry.2⟩ := by
  induction votes using List.reverseRecOn with
  | nil => exact .inl ⟨rfl, rfl⟩
  | append_singleton votes entry ih =>
    unfold winner at ih ⊢
    rw [foldl_append, filter_append, foldl_cons, foldl_nil]
    by_cases takes : takesPart entry.2 = true
    · have last : [entry].filter (fun entry => takesPart entry.2) = [entry] := by simp [takes]
      rw [last]
      refine .inr ?_
      rcases ih with ⟨nobody, start⟩ | ⟨best, isFirst, same⟩
      · rw [start, nobody]
        refine ⟨entry, ⟨[], [], rfl, by simp, by simp⟩, ?_⟩
        rw [if_pos]
        simpa [takes] using Nat.lt_of_lt_of_le Nat.zero_lt_one (draws entry.1)
      rw [same]
      refine ⟨_, isFirst.concat entry, ?_⟩
      by_cases more : urand best.1 < urand entry.1 <;> simp [takes, more]
    · have last : [entry].filter (fun entry => takesPart entry.2) = [] := by simp [takes]
      rw [last, append_nil]
      have skipped (best : Winner) :
          (if (takesPart entry.2 && decide (best.maxresul < urand entry.1)) = true then
            (⟨entry.1, urand entry.1, entry.2⟩ : Winner) else best) = best := by
        simp [takes]
      rw [skipped]
      exact ih

end Roll

namespace Roll

def greedy (vote : RollVote) : Bool := vote = .greed || vote = .disenchant

def source (roll : Roll) (loot : Loot) : Looting.Source := loot.masterSource roll.itemSlot.toNat

/-- Those who draw a number. -/
def drawing (roll : Roll) : PlayerVote :=
  if 0 < roll.totalNeed then roll.playerVote.filter fun entry => entry.2 = .need
  else if 0 < roll.totalGreed then roll.playerVote.filter fun entry => greedy entry.2
  else []

/-- The players who need the item, or the greedy ones if there are none. -/
def contenders (roll : Roll) : PlayerVote :=
  if ∃ entry ∈ roll.playerVote, entry.2 = .need then
    roll.playerVote.filter fun entry => entry.2 = .need
  else roll.playerVote.filter fun entry => greedy entry.2

end Roll

def World.online (w : World) (player : Nat) : Bool := w.inWorld player && w.hasSession player

/-- Looted for the contender with the highest number, or open to everybody. -/
inductive Settled (w : World) (roll : Roll) (item : LootItem) : Outcome → Prop
  | stored (entry : Nat × RollVote) (count : Nat) (among : entry ∈ roll.contenders)
      (drew : entry ∈ roll.drawing)
      (highest : ∀ other ∈ roll.contenders,
        w.urand roll.itemGUID other.1 ≤ w.urand roll.itemGUID entry.1)
      (looted : item.isLooted = true) (whole : count = item.count) :
      Settled w roll item (.stored entry.1 count)
  | disenchanted (entry : Nat × RollVote) (among : entry ∈ roll.contenders)
      (drew : entry ∈ roll.drawing)
      (highest : ∀ other ∈ roll.contenders,
        w.urand roll.itemGUID other.1 ≤ w.urand roll.itemGUID entry.1)
      (looted : item.isLooted = true) : Settled w roll item (.disenchanted entry.1)
  | unblocked (unlooted : item.isLooted = false) (free : item.isBlocked = false) :
      Settled w roll item .unblocked
  | nothing (unlooted : item.isLooted = false) (free : item.isBlocked = false) :
      Settled w roll item .nothing

/-- When an item is settled: of those who draw a number the first one with the highest is there, and
is a contender unless there is no room for the item. -/
inductive Settles (w : World) (roll : Roll) (item : LootItem) : Prop
  | passed (need : ¬0 < roll.totalNeed) (greed : ¬0 < roll.totalGreed)
      (unlooted : item.isLooted = false)
  | won (entry : Nat × RollVote)
      (first : FirstMax (fun entry => w.urand roll.itemGUID entry.1) roll.drawing entry)
      (there : w.online entry.1 = true)
      (room : entry.2 = .disenchant ∨ w.canStore entry.1 roll.itemGUID = true)
      (among : entry ∈ roll.contenders)
  | full (entry : Nat × RollVote)
      (first : FirstMax (fun entry => w.urand roll.itemGUID entry.1) roll.drawing entry)
      (there : w.online entry.1 = true)
      (noRoom : entry.2 ≠ .disenchant ∧ w.canStore entry.1 roll.itemGUID = false)
      (unlooted : item.isLooted = false)
  | away (entry : Nat × RollVote)
      (first : FirstMax (fun entry => w.urand roll.itemGUID entry.1) roll.drawing entry)
      (gone : w.online entry.1 = false)
      (unlooted : item.isLooted = false) (free : item.isBlocked = false)
  /-- The totals are ahead of the votes: the first voter counts as the winner. -/
  | noNeed (nobody : roll.drawing = []) (need : 0 < roll.totalNeed) (entry : Nat × RollVote)
      (first : roll.playerVote.head? = some entry) (there : w.online entry.1 = true)
      (noRoom : w.canStore entry.1 roll.itemGUID = false) (unlooted : item.isLooted = false)
  | noWinner (nobody : roll.drawing = []) (some_ : 0 < roll.totalNeed ∨ 0 < roll.totalGreed)
      (noOne : 0 < roll.totalNeed →
        ∀ entry, roll.playerVote.head? = some entry → w.online entry.1 = false)
      (unlooted : item.isLooted = false) (free : item.isBlocked = false)

section

variable {w : World} {roll : Roll} {loot : Loot} {item : LootItem}

def settle (item : LootItem) : Outcome → LootItem
  | .stored _ _ | .disenchanted _ => { item with isLooted := true }
  | .unblocked => { item with isBlocked := false }
  | .nothing | .lootGone => item

namespace Roll

theorem item?_setLooted (here : loot.item? (roll.source loot) = some item) :
    (roll.setLooted loot).item? (roll.source loot) = some { item with isLooted := true } := by
  show (loot.modifyItem (roll.source loot) _).item? (roll.source loot) = _
  rw [Loot.item?_modifyItem, if_pos rfl, here]
  rfl

theorem item?_unblock (here : loot.item? (roll.source loot) = some item) :
    (roll.unblock loot).item? (roll.source loot) = some { item with isBlocked := false } := by
  show (loot.modifyItem (roll.source loot) _).item? (roll.source loot) = _
  rw [Loot.item?_modifyItem, if_pos rfl, here]
  rfl

def storedFor (w : World) (roll : Roll) (item : LootItem) (player : Nat) : Outcome :=
  if w.canStore player roll.itemGUID then .stored player item.count else .unblocked

theorem storeFor_spec (here : loot.item? (roll.source loot) = some item) (player : Nat) :
    (roll.storeFor w loot player).2 = storedFor w roll item player ∧
      (roll.storeFor w loot player).1.item? (roll.source loot) =
        some (settle item (storedFor w roll item player)) := by
  have count : roll.itemCount loot = item.count := by
    show ((loot.item? (roll.source loot)).map LootItem.count).getD 0 = _
    rw [here]
    rfl
  unfold storeFor storedFor
  split
  · exact ⟨by rw [count], item?_setLooted here⟩
  · exact ⟨rfl, item?_unblock here⟩

/-- The outcome for the first of the highest, or for nobody. -/
def outcome (w : World) (roll : Roll) (item : LootItem) : Option (Nat × RollVote) → Outcome
  | none => .nothing
  | some entry =>
    if w.online entry.1 then
      if entry.2 = .disenchant then .disenchanted entry.1 else storedFor w roll item entry.1
    else .nothing

section
variable (draws : ∀ player, 1 ≤ w.urand roll.itemGUID player)
  (here : loot.item? (roll.source loot) = some item)
include draws here

theorem need_cases (need : 0 < roll.totalNeed) :
    ∃ result, (roll.award w loot).2 = result ∧
      (roll.award w loot).1.item? (roll.source loot) = some (settle item result) ∧
      ((∃ entry, FirstMax (fun entry => w.urand roll.itemGUID entry.1) roll.drawing entry ∧
          result = outcome w roll item (some entry)) ∨
        roll.drawing = [] ∧ result = outcome w roll item
          (roll.playerVote.head?.map fun entry => (entry.1, .notValid))) := by
  have drawing : roll.drawing = roll.playerVote.filter fun entry => entry.2 = .need := if_pos need
  unfold award
  rw [if_pos need]
  cases votes : roll.playerVote with
  | nil =>
    refine ⟨_, rfl, here, .inr ⟨?_, rfl⟩⟩
    rw [drawing, votes]
    rfl
  | cons first rest =>
    dsimp only
    have found := winner_spec (w.urand roll.itemGUID) draws (· = .need) (first :: rest) first.1
    rw [drawing, votes]
    rcases found with ⟨nobody, best⟩ | ⟨entry, isFirst, best⟩
    · rw [best]
      by_cases there : (w.inWorld first.1 && w.hasSession first.1) = true
      · rw [if_pos there]
        obtain ⟨is, left⟩ := storeFor_spec (w := w) here first.1
        refine ⟨_, is, left, .inr ⟨nobody, ?_⟩⟩
        exact (if_pos there).symm
      · rw [if_neg there]
        exact ⟨_, rfl, here, .inr ⟨nobody, (if_neg there).symm⟩⟩
    · rw [best]
      have isNeed : entry.2 ≠ .disenchant := by
        have kind := (mem_filter.mp isFirst.mem).2
        intro other
        rw [other] at kind
        cases kind
      by_cases there : (w.inWorld entry.1 && w.hasSession entry.1) = true
      · rw [if_pos there]
        obtain ⟨is, left⟩ := storeFor_spec (w := w) here entry.1
        refine ⟨_, is, left, .inl ⟨entry, isFirst, ?_⟩⟩
        exact ((if_pos there).trans (if_neg isNeed)).symm
      · rw [if_neg there]
        exact ⟨_, rfl, here, .inl ⟨entry, isFirst, (if_neg there).symm⟩⟩

theorem greed_cases (noNeed : ¬0 < roll.totalNeed)
    (greed : 0 < roll.totalGreed) :
    ∃ result, (roll.award w loot).2 = result ∧
      (roll.award w loot).1.item? (roll.source loot) = some (settle item result) ∧
      ((∃ entry, FirstMax (fun entry => w.urand roll.itemGUID entry.1) roll.drawing entry ∧
          result = outcome w roll item (some entry)) ∨
        roll.drawing = [] ∧ result = .nothing) := by
  have drawing : roll.drawing = roll.playerVote.filter fun entry => greedy entry.2 :=
    (if_neg noNeed).trans (if_pos greed)
  unfold award
  rw [if_neg noNeed, if_pos greed]
  cases votes : roll.playerVote with
  | nil =>
    refine ⟨_, rfl, here, .inr ⟨?_, rfl⟩⟩
    rw [drawing, votes]
    rfl
  | cons first rest =>
    dsimp only
    have found := winner_spec (w.urand roll.itemGUID) draws greedy (first :: rest) first.1
    rw [drawing, votes, show (fun vote => decide (vote = .greed) || decide (vote = .disenchant)) =
      greedy from rfl]
    rcases found with ⟨nobody, best⟩ | ⟨entry, isFirst, best⟩
    · rw [best]
      refine ⟨_, rfl, ?_, .inr ⟨nobody, ?_⟩⟩
      · split <;> exact here
      · split <;> rfl
    rw [best]
    have kind : entry.2 = .greed ∨ entry.2 = .disenchant := by
      simpa [greedy] using (mem_filter.mp isFirst.mem).2
    by_cases there : (w.inWorld entry.1 && w.hasSession entry.1) = true
    · rw [if_pos there]
      rcases kind with isGreed | isDisenchant
      · rw [if_pos isGreed]
        obtain ⟨is, left⟩ := storeFor_spec (w := w) here entry.1
        refine ⟨_, is, left, .inl ⟨entry, isFirst, ?_⟩⟩
        have other : entry.2 ≠ .disenchant := by
          rw [isGreed]
          exact nofun
        exact ((if_pos there).trans (if_neg other)).symm
      · have other : entry.2 ≠ .greed := by
          rw [isDisenchant]
          exact nofun
        rw [if_neg other, if_pos isDisenchant]
        refine ⟨_, rfl, item?_setLooted here, .inl ⟨entry, isFirst, ?_⟩⟩
        exact ((if_pos there).trans (if_pos isDisenchant)).symm
    · rw [if_neg there]
      exact ⟨_, rfl, here, .inl ⟨entry, isFirst, (if_neg there).symm⟩⟩

end

end Roll

variable {entry : Nat × RollVote}

theorem drawing_eq_contenders (drew : entry ∈ roll.drawing)
    (among : entry ∈ roll.contenders) : roll.drawing = roll.contenders := by
  unfold Roll.drawing Roll.contenders at *
  by_cases need : 0 < roll.totalNeed
  · rw [if_pos need] at drew ⊢
    obtain ⟨there, isNeed⟩ := mem_filter.mp drew
    rw [if_pos ⟨entry, there, of_decide_eq_true isNeed⟩]
  rw [if_neg need] at drew ⊢
  by_cases greed : 0 < roll.totalGreed
  · rw [if_pos greed] at drew ⊢
    split at among
    · have isNeed := of_decide_eq_true (mem_filter.mp among).2
      have isGreedy := (mem_filter.mp drew).2
      rw [isNeed] at isGreedy
      cases isGreedy
    · next nobody => rw [if_neg nobody]
  · rw [if_neg greed] at drew
    cases drew

theorem drawing_eq_nil (need : ¬0 < roll.totalNeed) (greed : ¬0 < roll.totalGreed) :
    roll.drawing = [] := (if_neg need).trans (if_neg greed)

theorem drawing_ne_nil {score : Nat × RollVote → Nat}
    (first : FirstMax score roll.drawing entry) : roll.drawing ≠ [] := by
  intro nobody
  have there := first.mem
  rw [nobody] at there
  cases there

/-- The first of the highest is there or not, with or without room for the item. -/
theorem settled_first_iff
    (first : FirstMax (fun entry => w.urand roll.itemGUID entry.1) roll.drawing entry) :
    Settled w roll (settle item (Roll.outcome w roll item (some entry)))
        (Roll.outcome w roll item (some entry)) ↔ Settles w roll item := by
  have contends : ∀ {other}, other ∈ roll.drawing → other ∈ roll.contenders →
      entry ∈ roll.contenders := fun drew among => drawing_eq_contenders drew among ▸ first.mem
  unfold Roll.outcome Roll.storedFor
  dsimp only
  constructor
  · by_cases there : w.online entry.1 = true
    · rw [if_pos there]
      by_cases isDisenchant : entry.2 = .disenchant
      · rw [if_pos isDisenchant]
        intro settled
        generalize player : entry.1 = guid at settled
        cases settled with
        | disenchanted other among drew highest looted =>
          exact .won entry first there (.inl isDisenchant) (contends drew among)
      · rw [if_neg isDisenchant]
        by_cases room : w.canStore entry.1 roll.itemGUID = true
        · rw [if_pos room]
          intro settled
          generalize player : entry.1 = guid at settled
          cases settled with
          | stored other _ among drew highest looted _ =>
            exact .won entry first there (.inr room) (contends drew among)
        · rw [if_neg room]
          intro settled
          cases settled with
          | unblocked unlooted _ =>
            exact .full entry first there ⟨isDisenchant, by simpa using room⟩ unlooted
    · rw [if_neg there]
      intro settled
      cases settled with
      | nothing unlooted free => exact .away entry first (by simpa using there) unlooted free
  · intro settles
    cases settles with
    | passed need greed unlooted => exact absurd (drawing_eq_nil need greed) (drawing_ne_nil first)
    | noNeed nobody _ _ _ _ _ _ => exact absurd nobody (drawing_ne_nil first)
    | noWinner nobody _ _ _ _ => exact absurd nobody (drawing_ne_nil first)
    | away other isFirst gone unlooted free =>
      obtain rfl := first.unique isFirst
      rw [if_neg (by simp [gone])]
      exact .nothing unlooted free
    | full other isFirst there noRoom unlooted =>
      obtain rfl := first.unique isFirst
      rw [if_pos there, if_neg noRoom.1, if_neg (by simp [noRoom.2])]
      exact .unblocked unlooted rfl
    | won other isFirst there room among =>
      obtain rfl := first.unique isFirst
      have highest : ∀ other ∈ roll.contenders,
          w.urand roll.itemGUID other.1 ≤ w.urand roll.itemGUID entry.1 := by
        intro other isOne
        rw [← drawing_eq_contenders first.mem among] at isOne
        exact first.le isOne
      rw [if_pos there]
      split
      · exact .disenchanted entry among first.mem highest rfl
      next other =>
      rw [if_pos (room.resolve_left other)]
      exact .stored entry _ among first.mem highest rfl rfl

theorem settles_nobody (nobody : roll.drawing = []) (settles : Settles w roll item) :
    item.isLooted = false ∧
      ((¬0 < roll.totalNeed ∧ ¬0 < roll.totalGreed) ∨
        (0 < roll.totalNeed ∧ ∃ entry, roll.playerVote.head? = some entry ∧
          w.online entry.1 = true ∧ w.canStore entry.1 roll.itemGUID = false) ∨
        (item.isBlocked = false ∧ (0 < roll.totalNeed →
          ∀ entry, roll.playerVote.head? = some entry → w.online entry.1 = false))) := by
  cases settles with
  | passed need greed unlooted => exact ⟨unlooted, .inl ⟨need, greed⟩⟩
  | won _ first _ _ _ => exact absurd nobody (drawing_ne_nil first)
  | full _ first _ _ _ => exact absurd nobody (drawing_ne_nil first)
  | away _ first _ _ _ => exact absurd nobody (drawing_ne_nil first)
  | noNeed _ need entry isHead there noRoom unlooted =>
    exact ⟨unlooted, .inr (.inl ⟨need, entry, isHead, there, noRoom⟩)⟩
  | noWinner _ _ gone unlooted free => exact ⟨unlooted, .inr (.inr ⟨free, gone⟩)⟩

/-- Nobody draws, and the first voter counts as the winner. -/
theorem settled_nobody_iff (nobody : roll.drawing = []) (need : 0 < roll.totalNeed) :
    Settled w roll (settle item (Roll.outcome w roll item
        (roll.playerVote.head?.map fun entry => (entry.1, .notValid))))
      (Roll.outcome w roll item (roll.playerVote.head?.map fun entry => (entry.1, .notValid))) ↔
      Settles w roll item := by
  have noOne : ∀ entry, entry ∉ roll.drawing := by
    rw [nobody]
    exact fun _ => not_mem_nil
  unfold Roll.outcome Roll.storedFor
  cases head : roll.playerVote.head? with
  | none =>
    constructor
    · intro settled
      cases settled with
      | nothing unlooted free =>
        refine .noWinner nobody (.inl need) (fun _ entry isHead => ?_) unlooted free
        rw [head] at isHead
        cases isHead
    · intro settles
      obtain ⟨unlooted, isNot | ⟨_, entry, isHead, _⟩ | ⟨free, _⟩⟩ := settles_nobody nobody settles
      · exact absurd need isNot.1
      · rw [head] at isHead
        cases isHead
      · exact .nothing unlooted free
  | some entry =>
    dsimp only [map_some]
    rw [if_neg (show RollVote.notValid ≠ .disenchant from nofun)]
    by_cases there : w.online entry.1 = true
    · rw [if_pos there]
      by_cases room : w.canStore entry.1 roll.itemGUID = true
      · rw [if_pos room]
        constructor
        · intro settled
          generalize entry.1 = guid at settled
          cases settled with
          | stored other _ among drew highest looted _ => exact absurd drew (noOne other)
        · intro settles
          obtain ⟨_, isNot | ⟨_, other, isHead, _, noRoom⟩ | ⟨_, isGone⟩⟩ :=
            settles_nobody nobody settles
          · exact absurd need isNot.1
          · rw [head] at isHead
            obtain rfl := some.inj isHead
            rw [room] at noRoom
            cases noRoom
          · rw [isGone need entry head] at there
            cases there
      · rw [if_neg room]
        constructor
        · intro settled
          cases settled with
          | unblocked unlooted _ =>
            exact .noNeed nobody need entry head there (by simpa using room) unlooted
        · intro settles
          exact .unblocked (settles_nobody nobody settles).1 rfl
    · rw [if_neg there]
      constructor
      · intro settled
        cases settled with
        | nothing unlooted free =>
          refine .noWinner nobody (.inl need) (fun _ other isHead => ?_) unlooted free
          rw [head] at isHead
          obtain rfl := some.inj isHead
          simpa using there
      · intro settles
        obtain ⟨unlooted, isNot | ⟨_, other, isHead, isThere, _⟩ | ⟨free, _⟩⟩ :=
          settles_nobody nobody settles
        · exact absurd need isNot.1
        · rw [head] at isHead
          obtain rfl := some.inj isHead
          exact absurd isThere there
        · exact .nothing unlooted free

theorem award_settled_iff (draws : ∀ player, 1 ≤ w.urand roll.itemGUID player)
    (here : loot.item? (roll.source loot) = some item) :
    ∃ result, (roll.award w loot).2 = result ∧
      (roll.award w loot).1.item? (roll.source loot) = some (settle item result) ∧
      (Settled w roll (settle item result) result ↔ Settles w roll item) := by
  by_cases need : 0 < roll.totalNeed
  · obtain ⟨result, is, left, cases_⟩ := Roll.need_cases draws here need
    refine ⟨result, is, left, ?_⟩
    rcases cases_ with ⟨entry, first, rfl⟩ | ⟨nobody, rfl⟩
    · exact settled_first_iff first
    · exact settled_nobody_iff nobody need
  by_cases greed : 0 < roll.totalGreed
  · obtain ⟨result, is, left, cases_⟩ := Roll.greed_cases draws here need greed
    refine ⟨result, is, left, ?_⟩
    rcases cases_ with ⟨entry, first, rfl⟩ | ⟨nobody, rfl⟩
    · exact settled_first_iff first
    constructor
    · intro settled
      cases settled with
      | nothing unlooted free =>
        exact .noWinner nobody (.inr greed) (fun is => absurd is need) unlooted free
    · intro settles
      obtain ⟨unlooted, isNot | ⟨is, _⟩ | ⟨free, _⟩⟩ := settles_nobody nobody settles
      · exact absurd greed isNot.2
      · exact absurd is need
      · exact .nothing unlooted free
  · refine ⟨.unblocked, ?_, ?_, ?_⟩
    · rw [Roll.award, if_neg need, if_neg greed]
    · rw [Roll.award, if_neg need, if_neg greed]
      exact Roll.item?_unblock here
    · constructor
      · intro settled
        cases settled with
        | unblocked unlooted _ => exact .passed need greed unlooted
      · intro settles
        exact .unblocked (settles_nobody (drawing_eq_nil need greed) settles).1 rfl

end

def rolledItem : LootItem where
  itemid := 100
  conditions := []
  allowedGUIDs := []
  count := 1
  isLooted := false
  isBlocked := true
  freeforall := false
  isUnderthreshold := false
  isCounted := true
  needsQuest := false
  followLootRules := false

/-- Player 1 needs the item of loot 7, player 2 passes. -/
def needRoll : Roll where
  itemGUID := 1
  itemid := 100
  playerVote := [(1, .need), (2, .pass)]
  totalPlayersRolling := 2
  totalNeed := 1
  totalGreed := 0
  totalPass := 1
  itemSlot := 0
  loot := some 7

def needRolling : Rolling where
  rolls := [needRoll]
  loots := fun _ => { Loot.empty 0 with items := [rolledItem], unlootedCount := 1 }
  counted := []

end OpenWoW.Groups
