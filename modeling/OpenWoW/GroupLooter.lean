import Mathlib.Data.Finset.Card
import Mathlib.Data.List.Rotate
import OpenWoW.GroupMembers

/-! The looter of a group, whose turn goes round among the members nearby. -/
namespace OpenWoW.Groups

open List

inductive LootMethod
  | freeForAll
  | roundRobin
  | masterLoot
  | groupLoot
  | needBeforeGreed
  deriving DecidableEq, Repr

structure LootRules where
  lootMethod : LootMethod
  looterGuid : Nat
  deriving DecidableEq, Repr

/-- `FindPlayer` finds the player, within the reward distance of the looted object. -/
def World.eligible (w : World) (guid : Nat) : Bool := w.inWorld guid && w.near guid

/-- The methods in which the turn goes round. -/
def Rotates (method : LootMethod) : Prop := method ≠ .masterLoot ∧ method ≠ .freeForAll

namespace Group

/-- The iterator behind the looter, or the end where he is no member. -/
def guidItr (g : Group) (looterGuid : Nat) : Nat :=
  match g.getMemberSlot looterGuid with
  | some position => position + 1
  | none => g.memberSlots.length

/-- The first player near the looted object after the looter, else from the start on. -/
def newLooter (w : World) (g : Group) (looterGuid : Nat) : Option Nat :=
  match (g.guids.drop (g.guidItr looterGuid)).find? w.eligible with
  | some guid => some guid
  | none => (g.guids.take (g.guidItr looterGuid)).find? w.eligible

/-- `UpdateLooterGuid`; the second part says whether an update is sent. -/
def updateLooterGuid (w : World) (g : Group) (rules : LootRules) (ifneed : Bool) :
    LootRules × Bool :=
  match rules.lootMethod with
  | .masterLoot | .freeForAll => (rules, false)
  | _ =>
    if ifneed && g.isMember rules.looterGuid && w.eligible rules.looterGuid then (rules, false)
    else
      match g.newLooter w rules.looterGuid with
      | some guid =>
        if rules.looterGuid ≠ guid then ({ rules with looterGuid := guid }, true)
        else (rules, false)
      | none => ({ rules with looterGuid := 0 }, true)

/-- The members in the order of their turns, from the one behind the looter on. -/
def turns (g : Group) (looterGuid : Nat) : List Nat :=
  match g.getMemberSlot looterGuid with
  | some position => g.guids.rotate (position + 1)
  | none => g.guids

def looters (g : Group) : List World → LootRules → List Nat
  | [], _ => []
  | w :: ws, rules =>
    let next := (g.updateLooterGuid w rules false).1
    next.looterGuid :: looters g ws next

variable {g : Group} {w : World} {rules : LootRules} {ifneed : Bool}

theorem guids_length (g : Group) : g.guids.length = g.memberSlots.length := length_map _

theorem getMemberSlot_split {guid position : Nat} (found : g.getMemberSlot guid = some position) :
    ∃ before after, g.guids = before ++ guid :: after ∧ before.length = position := by
  obtain ⟨inside, here, _⟩ := findIdx?_eq_some_iff_getElem.mp found
  have bound : position < g.guids.length := by rw [guids_length]; exact inside
  have entry : g.guids[position] = guid := by simpa [guids] using here
  refine ⟨g.guids.take position, g.guids.drop (position + 1), ?_, by simp; omega⟩
  rw [← entry, getElem_cons_drop, take_append_drop]

theorem getMemberSlot_isSome (guid : Nat) : (g.getMemberSlot guid).isSome ↔ guid ∈ g.guids := by
  simp [getMemberSlot, findIdx?_isSome, guids]

theorem turns_perm (g : Group) (looterGuid : Nat) : (g.turns looterGuid).Perm g.guids := by
  unfold turns
  split
  · exact rotate_perm _ _
  · exact List.Perm.refl _

theorem turns_eq (g : Group) (looterGuid : Nat) :
    g.turns looterGuid =
      g.guids.drop (g.guidItr looterGuid) ++ g.guids.take (g.guidItr looterGuid) := by
  unfold turns guidItr
  split
  · rename_i position found
    obtain ⟨before, after, split_, rfl⟩ := getMemberSlot_split found
    apply rotate_eq_drop_append_take
    simp [split_]
  · rw [← guids_length, drop_length, take_length, nil_append]

theorem newLooter_eq (w : World) (g : Group) (looterGuid : Nat) :
    g.newLooter w looterGuid = (g.turns looterGuid).find? w.eligible := by
  unfold newLooter
  rw [turns_eq, find?_append]
  cases (g.guids.drop (g.guidItr looterGuid)).find? w.eligible <;> rfl

theorem exists_rotate (g : Group) (looterGuid : Nat) :
    ∃ k, g.turns looterGuid = g.guids.rotate k := by
  unfold turns
  split
  · exact ⟨_, rfl⟩
  · exact ⟨0, (rotate_zero _).symm⟩

theorem turns_of_split {looterGuid next : Nat} {before after : List Nat} (distinct : g.guids.Nodup)
    (order : g.turns looterGuid = before ++ next :: after) :
    g.turns next = after ++ (before ++ [next]) := by
  obtain ⟨k, rotated⟩ := g.exists_rotate looterGuid
  rw [order] at rotated
  have member : next ∈ g.guids := by
    rw [← (turns_perm g looterGuid).mem_iff, order]
    simp
  obtain ⟨position, found⟩ := Option.isSome_iff_exists.mp ((getMemberSlot_isSome next).mpr member)
  obtain ⟨front, rest, split_, rfl⟩ := getMemberSlot_split found
  -- the member stands at one position only
  have same : (before.length + k) % g.guids.length = front.length := by
    have inside : before.length < (g.guids.rotate k).length := by simp [← rotated]
    have bound : front.length < g.guids.length := by
      rw [split_, List.length_append, List.length_cons]
      omega
    have here : (g.guids.rotate k)[before.length] = next := by simp [← rotated]
    rw [getElem_rotate] at here
    have there : g.guids[front.length] = next := by simp [split_]
    exact (distinct.getElem_inj_iff).mp (here.trans there.symm)
  have last : g.turns next = g.guids.rotate (front.length + 1) := by
    unfold turns
    rw [found]
  calc g.turns next = g.guids.rotate (front.length + 1) := last
    _ = g.guids.rotate (k + (before ++ [next]).length) := by
        rw [← rotate_mod g.guids (k + _), ← same, ← rotate_mod g.guids (_ + 1),
          Nat.mod_add_mod, length_append, length_singleton]
        congr 2
        omega
    _ = (before ++ next :: after).rotate (before ++ [next]).length := by
        rw [rotated, rotate_rotate]
    _ = after ++ (before ++ [next]) := by
        rw [append_cons, rotate_append_length_eq]

theorem updateLooterGuid_eq (round : Rotates rules.lootMethod) (w : World) (ifneed : Bool) :
    g.updateLooterGuid w rules ifneed =
      if ifneed && g.isMember rules.looterGuid && w.eligible rules.looterGuid then (rules, false)
      else
        match g.newLooter w rules.looterGuid with
        | some guid =>
          if rules.looterGuid ≠ guid then ({ rules with looterGuid := guid }, true)
          else (rules, false)
        | none => ({ rules with looterGuid := 0 }, true) := by
  unfold updateLooterGuid
  split
  · rename_i isMaster
    exact absurd isMaster round.1
  · rename_i isFree
    exact absurd isFree round.2
  · rfl

theorem looter_kept (round : Rotates rules.lootMethod) (member : rules.looterGuid ∈ g.guids)
    (near : w.eligible rules.looterGuid = true) :
    g.updateLooterGuid w rules true = (rules, false) := by
  rw [updateLooterGuid_eq round, (isMember_iff g _).mpr member, near]
  rfl

theorem looter_next (round : Rotates rules.lootMethod)
    (asked : ifneed = true → rules.looterGuid ∈ g.guids → w.eligible rules.looterGuid = false) :
    (g.updateLooterGuid w rules ifneed).1 =
      { rules with looterGuid := ((g.turns rules.looterGuid).find? w.eligible).getD 0 } := by
  have passes : (ifneed && g.isMember rules.looterGuid && w.eligible rules.looterGuid) = false := by
    rw [Bool.eq_false_iff]
    intro stays
    rw [Bool.and_eq_true, Bool.and_eq_true] at stays
    rw [asked stays.1.1 ((isMember_iff g _).mp stays.1.2)] at stays
    exact Bool.false_ne_true stays.2
  rw [updateLooterGuid_eq round, passes, if_neg Bool.false_ne_true, newLooter_eq]
  cases (g.turns rules.looterGuid).find? w.eligible with
  | none => rfl
  | some guid =>
    by_cases same : rules.looterGuid = guid
    · rw [← same]
      simp
    · simp [same]

/-- Up to as many calls as there are members near the object take these in the order of their
turns. -/
theorem looters_eq {near : Nat → Bool} (distinct : g.guids.Nodup) (round : Rotates rules.lootMethod)
    {ws : List World} (same : ∀ w ∈ ws, ∀ guid ∈ g.guids, w.eligible guid = near guid)
    (few : ws.length ≤ ((g.turns rules.looterGuid).filter near).length) :
    g.looters ws rules = ((g.turns rules.looterGuid).filter near).take ws.length := by
  induction ws generalizing rules with
  | nil => rfl
  | cons w ws ih =>
    have nonempty : (g.turns rules.looterGuid).find? near ≠ none := by
      rw [← head?_filter]
      intro none_
      rw [head?_eq_none_iff.mp none_] at few
      simp at few
    obtain ⟨next, found⟩ := Option.ne_none_iff_exists'.mp nonempty
    obtain ⟨isNear, before, after, order, far⟩ := find?_eq_some_iff_append.mp found
    have agree : ∀ guid ∈ g.turns rules.looterGuid, w.eligible guid = near guid :=
      fun guid there => same w mem_cons_self guid ((turns_perm g _).mem_iff.mp there)
    have asked : (g.turns rules.looterGuid).find? w.eligible = some next := by
      rw [order] at agree ⊢
      refine find?_eq_some_iff_append.mpr ⟨?_, before, after, rfl, fun guid there => ?_⟩
      · rw [agree next (by simp), isNear]
      · rw [agree guid (mem_append_left _ there)]
        exact far guid there
    have next_eq : (g.updateLooterGuid w rules false).1 = { rules with looterGuid := next } := by
      rw [looter_next round (by simp), asked]
      rfl
    have skipped : before.filter near = [] := by
      rw [filter_eq_nil_iff]
      intro guid there
      simpa using far guid there
    have turn : (g.turns rules.looterGuid).filter near = next :: after.filter near := by
      rw [order, filter_append, skipped, nil_append, filter_cons_of_pos isNear]
    have later : (g.turns next).filter near = after.filter near ++ [next] := by
      rw [turns_of_split distinct order, filter_append, filter_append, skipped,
        nil_append, filter_singleton, isNear]
      rfl
    rw [turn, length_cons, length_cons] at few
    have enough : ws.length ≤ ((g.turns next).filter near).length := by
      rw [later, length_append]
      omega
    have rest := @ih { rules with looterGuid := next } round
      (fun w there => same w (mem_cons_of_mem _ there)) enough
    rw [later, take_append_of_le_length (by omega)] at rest
    unfold looters
    rw [turn, length_cons, take_succ_cons, ← rest, next_eq]

/-- The turn goes round fairly. As many calls as there are members near the looted object make each
of them the looter once, in the order of the members from behind the looter on. Where an update is
only made if needed, a member near the object stays the looter. With nobody near it there is no
looter. -/
theorem looting_fair (g : Group) (rules : LootRules) (nearby : Finset Nat)
    (round : Rotates rules.lootMethod) (distinct : g.guids.Nodup)
    (members : ∀ guid ∈ nearby, guid ∈ g.guids) :
    (∀ ws : List World, ws.length = nearby.card →
      (∀ w ∈ ws, ∀ guid ∈ g.guids, w.eligible guid = decide (guid ∈ nearby)) →
      g.looters ws rules = (g.turns rules.looterGuid).filter (· ∈ nearby) ∧
        ∀ guid ∈ nearby, (g.looters ws rules).count guid = 1) ∧
    ∀ w : World, (∀ guid ∈ g.guids, w.eligible guid = decide (guid ∈ nearby)) →
      (rules.looterGuid ∈ nearby → g.updateLooterGuid w rules true = (rules, false)) ∧
      (nearby = ∅ → ∀ ifneed, (g.updateLooterGuid w rules ifneed).1.looterGuid = 0) := by
  have turnsDistinct : (g.turns rules.looterGuid).Nodup := (turns_perm g _).nodup_iff.mpr distinct
  have mem : ∀ guid, guid ∈ (g.turns rules.looterGuid).filter (· ∈ nearby) ↔ guid ∈ nearby := by
    intro guid
    rw [mem_filter, (turns_perm g _).mem_iff, decide_eq_true_eq]
    exact ⟨And.right, fun there => ⟨members guid there, there⟩⟩
  have card : ((g.turns rules.looterGuid).filter (· ∈ nearby)).length = nearby.card := by
    rw [← toFinset_card_of_nodup (turnsDistinct.filter _)]
    congr 1
    ext guid
    rw [mem_toFinset, mem]
  constructor
  · intro ws length same
    have order : g.looters ws rules = (g.turns rules.looterGuid).filter (· ∈ nearby) := by
      rw [looters_eq distinct round same (by omega), take_of_length_le (by omega)]
    refine ⟨order, fun guid there => ?_⟩
    rw [order]
    exact count_eq_one_of_mem (turnsDistinct.filter _) ((mem guid).mpr there)
  · intro w same
    constructor
    · intro there
      have member := members _ there
      exact looter_kept round member (by rw [same _ member]; exact decide_eq_true there)
    · rintro rfl ifneed
      have far : ∀ guid ∈ g.guids, w.eligible guid = false := by simpa using same
      have nobody : (g.turns rules.looterGuid).find? w.eligible = none := by
        rw [find?_eq_none]
        intro guid there
        rw [far guid ((turns_perm g _).mem_iff.mp there)]
        exact Bool.false_ne_true
      rw [looter_next round fun _ member => far _ member, nobody]
      rfl

def trio : Group := ((create false false 1).addMember 2).addMember 3

/-- Player 2 is too far away. -/
def besideTwo : World := { calmWorld with near := (· ≠ 2) }

/-- After player 2 come 3 and 1. -/
theorem looting_fair_trio : trio.looters [besideTwo, besideTwo] ⟨.groupLoot, 2⟩ = [3, 1] := by
  have fair := (looting_fair trio ⟨.groupLoot, 2⟩ {1, 3} ⟨by decide, by decide⟩ (by decide)
    (by decide)).1 [besideTwo, besideTwo] rfl (by decide)
  rw [fair.1]
  decide

end Group

end OpenWoW.Groups
