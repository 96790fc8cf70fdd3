import Mathlib.Data.List.Count
import Mathlib.Data.List.Dedup
import OpenWoW.QuestPools

/-! How often the relation multimaps contain a giver and a quest. -/
namespace OpenWoW.QuestPools

open List

variable (pooled questMap : List (Nat × Nat)) (quest : Nat) (starters : List (Nat × Nat))
  (giver other : Nat)

namespace Tables

variable (tables : Tables)

/-- How many rows of `pool_quest` list a quest. -/
def listed (quest : Nat) : Nat := tables.poolQuest.countP (·.1 = quest)

theorem joined_filter :
    ((tables.joined quest).filter (· ≠ 0)).length = tables.listed quest ∧
      ((tables.joined quest).filter (· = 0)).length = if tables.listed quest = 0 then 1 else 0 := by
  unfold joined listed
  rw [countP_eq_length_filter]
  split
  · rename_i none
    rw [none]
    exact ⟨rfl, rfl⟩
  next row rows some =>
  have positive : ∀ pool ∈ (row :: rows).map (·.2), pool ≠ 0 := by
    intro pool there
    obtain ⟨other, member, rfl⟩ := mem_map.mp there
    rw [← some] at member
    exact tables.poolPositive other (mem_filter.mp member).1
  rw [some, filter_eq_self.mpr fun pool there => decide_eq_true (positive pool there),
    filter_eq_nil_iff.mpr fun pool there => by simpa using positive pool there]
  exact ⟨length_map .., by simp⟩

theorem count_pooled (quest : Nat) :
    (tables.pooled starters).count (quest, giver) =
      starters.count (giver, quest) * tables.listed quest := by
  unfold pooled
  induction starters with
  | nil => simp
  | cons starter starters ih =>
    rw [flatMap_cons, count_append, ih, count_cons, Nat.add_mul, Nat.add_comm]
    congr 1
    change ((tables.joined starter.2 |>.filter (· ≠ 0)).map fun _ =>
      (starter.2, starter.1)).count (quest, giver) = _
    rw [map_const', count_replicate, (tables.joined_filter starter.2).1]
    by_cases same : starter = (giver, quest)
    · subst same
      simp
    have different : ¬(starter.2, starter.1) = (quest, giver) := fun equal =>
      same (Prod.ext (congrArg Prod.snd equal) (congrArg Prod.fst equal))
    rw [beq_false_of_ne same, beq_false_of_ne different]
    simp

theorem count_relations (quest : Nat) :
    (tables.relations starters).count (giver, quest) =
      starters.count (giver, quest) * if tables.listed quest = 0 then 1 else 0 := by
  unfold relations
  induction starters with
  | nil => simp
  | cons starter starters ih =>
    rw [flatMap_cons, count_append, ih, count_cons, Nat.add_mul, Nat.add_comm]
    congr 1
    change ((tables.joined starter.2 |>.filter (· = 0)).map fun _ => starter).count
      (giver, quest) = _
    rw [map_const', count_replicate, (tables.joined_filter starter.2).2]
    by_cases same : starter = (giver, quest)
    · subst same
      simp
    · rw [beq_false_of_ne same]
      simp

end Tables

namespace PoolMgr

theorem count_swapped :
    ((pooled.filter (·.1 = quest)).map fun row => (row.2, row.1)).count (giver, other) =
      if other = quest then pooled.count (quest, giver) else 0 := by
  induction pooled with
  | nil => simp
  | cons row pooled ih =>
    rw [filter_cons]
    split
    · rename_i same
      have same : row.1 = quest := of_decide_eq_true same
      rw [map_cons, count_cons, ih, count_cons]
      split
      · rename_i isQuest
        subst isQuest same
        by_cases isGiver : row.2 = giver
        · subst isGiver
          simp
        have first : ¬(row.2, row.1) = (giver, row.1) := fun equal =>
          isGiver (congrArg Prod.fst equal)
        have second : ¬row = (row.1, giver) := fun equal =>
          isGiver (congrArg Prod.snd equal)
        simp [first, second]
      · rename_i different
        have other : ¬(row.2, row.1) = (giver, other) := fun equal =>
          different ((congrArg Prod.snd equal).symm.trans same)
        simp [other]
    · rename_i different
      have different : ¬row.1 = quest := of_decide_eq_false (by simpa using different)
      have other : ¬row = (quest, giver) := fun equal => different (congrArg Prod.fst equal)
      rw [ih, count_cons]
      simp [other]

theorem count_insertRelations :
    (insertRelations pooled quest questMap).count (giver, other) = questMap.count (giver, other) +
      if other = quest then pooled.count (quest, giver) else 0 := by
  rw [← count_swapped pooled quest giver other]
  unfold insertRelations
  induction pooled.filter (·.1 = quest) generalizing questMap with
  | nil => simp
  | cons row rows ih =>
    rw [foldl_cons, ih, map_cons, count_cons, count_cons]
    omega

theorem count_eraseRelations :
    (eraseRelations pooled quest questMap).count (giver, other) = questMap.count (giver, other) -
      if other = quest then pooled.count (quest, giver) else 0 := by
  rw [← count_swapped pooled quest giver other]
  unfold eraseRelations
  induction pooled.filter (·.1 = quest) generalizing questMap with
  | nil => simp
  | cons row rows ih =>
    rw [foldl_cons, ih, map_cons, count_cons, count_erase]
    omega

end PoolMgr

end OpenWoW.QuestPools
