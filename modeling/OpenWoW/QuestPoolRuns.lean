import OpenWoW.QuestPoolRelations

/-! What the rotation of quest pools keeps, and what it does to the other pools. -/
namespace OpenWoW.QuestPools

open List Function

variable {tables : Tables}

namespace Tables

theorem mem_group {quest pool : Nat} : quest ∈ tables.group pool ↔ (quest, pool) ∈ tables.rows := by
  unfold group
  rw [mem_map]
  constructor
  · rintro ⟨row, there, rfl⟩
    obtain ⟨member, isPool⟩ := mem_filter.mp there
    exact (of_decide_eq_true isPool) ▸ member
  · exact fun there => ⟨(quest, pool), mem_filter.mpr ⟨there, decide_eq_true rfl⟩, rfl⟩

theorem group_unique {quest pool other : Nat} (once : tables.listed quest = 1)
    (member : quest ∈ tables.group pool) (there : quest ∈ tables.group other) : other = pool := by
  unfold listed at once
  rw [countP_eq_length_filter] at once
  obtain ⟨row, single⟩ := length_eq_one_iff.mp once
  have isRow (place : Nat) (inside : quest ∈ tables.group place) : (quest, place) = row := by
    refine mem_singleton.mp (single ▸ mem_filter.mpr ⟨?_, decide_eq_true rfl⟩)
    exact (mem_filter.mp (mem_group.mp inside)).1
  exact congrArg Prod.snd ((isRow other there).trans (isRow pool member).symm)

theorem exists_giver {quest pool : Nat} (member : quest ∈ tables.group pool) :
    ∃ giver, tables.listed quest ≤ (tables.pooled tables.creatureStarters).count (quest, giver) ∨
      tables.listed quest ≤ (tables.pooled tables.goStarters).count (quest, giver) := by
  have started := (mem_filter.mp (mem_group.mp member)).2
  have found {starters : List (Nat × Nat)}
      (some : (tables.pooled starters).any (·.1 = quest) = true) :
      ∃ giver, tables.listed quest ≤ (tables.pooled starters).count (quest, giver) := by
    obtain ⟨⟨isQuest, giver⟩, there, same⟩ := any_eq_true.mp some
    obtain rfl : isQuest = quest := of_decide_eq_true same
    refine ⟨giver, ?_⟩
    have positive := count_pos_iff.mpr there
    rw [count_pooled] at positive ⊢
    exact Nat.le_mul_of_pos_left _ (Nat.pos_of_mul_pos_right positive)
  rcases Bool.or_eq_true .. ▸ (Bool.and_eq_true .. ▸ started).2 with creature | go
  · obtain ⟨giver, many⟩ := found creature
    exact ⟨giver, .inl many⟩
  · obtain ⟨giver, many⟩ := found go
    exact ⟨giver, .inr many⟩

end Tables

namespace PoolMgr

variable {s : PoolMgr} {pool quest : Nat}

/-- A relation multimap has the plain relations and those of the active quests. -/
def Linked (tables : Tables) (starters : List (Nat × Nat)) (active : List Nat)
    (questMap : List (Nat × Nat)) : Prop :=
  ∀ giver quest, questMap.count (giver, quest) = (tables.relations starters).count (giver, quest) +
    if quest ∈ active then (tables.pooled starters).count (quest, giver) else 0

structure Kept (tables : Tables) (s : PoolMgr) : Prop where
  nodup : s.activeQuests.Nodup
  once : ∀ quest ∈ s.activeQuests, tables.listed quest = 1
  countedOnce : ∀ pool, (s.counted pool).Nodup
  counted : ∀ pool quest,
    quest ∈ s.counted pool ↔ quest ∈ s.activeQuests ∧ quest ∈ tables.group pool
  spawned : ∀ pool, s.spawned pool = (s.counted pool).length
  limit : ∀ pool, s.spawned pool ≤ tables.maxLimit pool
  creature : Linked tables tables.creatureStarters s.activeQuests s.creatureQuests
  go : Linked tables tables.goStarters s.activeQuests s.goQuests

variable {starters questMap : List (Nat × Nat)}

section
variable {active : List Nat} (linked : Linked tables starters active questMap)
include linked

theorem Linked.nodup (distinct : starters.Nodup)
    (once : ∀ quest ∈ active, tables.listed quest = 1) : questMap.Nodup := by
  refine nodup_iff_count_le_one.mpr fun (giver, quest) => ?_
  have one := nodup_iff_count_le_one.mp distinct (giver, quest)
  rw [linked, tables.count_relations, tables.count_pooled]
  by_cases isActive : quest ∈ active
  · rw [if_pos isActive, once quest isActive, if_neg Nat.one_ne_zero, Nat.mul_zero, Nat.mul_one,
      Nat.zero_add]
    exact one
  rw [if_neg isActive]
  split
  · rw [Nat.mul_one]
    exact one
  · exact Nat.zero_le _

theorem Linked.insert (absent : quest ∉ active) :
    Linked tables starters (quest :: active)
      (insertRelations (tables.pooled starters) quest questMap) := by
  intro giver other
  rw [count_insertRelations, linked]
  by_cases same : other = quest
  · subst same
    simp [absent]
  · simp [same]

theorem Linked.erase
    (distinct : active.Nodup) (here : quest ∈ active) :
    Linked tables starters (active.erase quest)
      (eraseRelations (tables.pooled starters) quest questMap) := by
  intro giver other
  rw [count_eraseRelations, linked]
  by_cases same : other = quest
  · subst same
    have gone : other ∉ active.erase other := fun there =>
      (distinct.mem_erase_iff.mp there).1 rfl
    rw [if_pos here, if_pos rfl, if_neg gone]
    omega
  · rw [if_neg same]
    simp only [distinct.mem_erase_iff, ne_eq, same, not_false_eq_true, true_and, Nat.sub_zero]

end

theorem Kept.activate (kept : Kept tables s) (absent : quest ∉ s.activeQuests)
    (member : quest ∈ tables.group pool) (once : tables.listed quest = 1)
    (room : s.spawned pool < tables.maxLimit pool) : Kept tables (activate tables pool s quest) := by
  have active : (PoolMgr.activate tables pool s quest).activeQuests = quest :: s.activeQuests :=
    insert_of_not_mem absent
  have counted (other : Nat) : (PoolMgr.activate tables pool s quest).counted other =
      if other = pool then quest :: s.counted pool else s.counted other :=
    update_apply ..
  have spawned (other : Nat) : (PoolMgr.activate tables pool s quest).spawned other =
      if other = pool then s.spawned pool + 1 else s.spawned other :=
    update_apply ..
  refine ⟨?_, fun other there => ?_, fun other => ?_, fun other another => ?_, fun other => ?_,
    fun other => ?_, ?_, ?_⟩
  · rw [active]
    exact nodup_cons.mpr ⟨absent, kept.nodup⟩
  · rw [active] at there
    rcases mem_cons.mp there with rfl | old
    · exact once
    · exact kept.once other old
  · rw [counted]
    split
    · exact nodup_cons.mpr ⟨fun there => absent ((kept.counted _ _).mp there).1,
        kept.countedOnce pool⟩
    · exact kept.countedOnce other
  · rw [counted, active]
    split
    · rename_i same
      subst same
      rw [mem_cons, mem_cons, kept.counted]
      constructor
      · rintro (rfl | ⟨old, inside⟩)
        · exact ⟨.inl rfl, member⟩
        · exact ⟨.inr old, inside⟩
      · rintro ⟨rfl | old, inside⟩
        · exact .inl rfl
        · exact .inr ⟨old, inside⟩
    · rename_i different
      rw [kept.counted, mem_cons]
      refine ⟨fun both => ⟨.inr both.1, both.2⟩, fun both => ⟨?_, both.2⟩⟩
      refine both.1.resolve_left fun same => different ?_
      exact tables.group_unique once member (same ▸ both.2)
  · rw [counted, spawned]
    split
    · rw [length_cons, kept.spawned]
    · exact kept.spawned other
  · rw [spawned]
    split
    · next same => exact same ▸ room
    · exact kept.limit other
  · rw [active]
    exact kept.creature.insert absent
  · rw [active]
    exact kept.go.insert absent

theorem Kept.deactivate (kept : Kept tables s) (member : quest ∈ tables.group pool) :
    Kept tables (deactivate tables pool s quest) := by
  unfold PoolMgr.deactivate
  split
  · rename_i here
    have inside := (kept.counted pool quest).mpr ⟨here, member⟩
    have once := kept.once quest here
    have counted (other : Nat) : ((s.despawn1Object tables quest).removeObject quest pool).counted
        other = if other = pool then (s.counted pool).erase quest else s.counted other :=
      update_apply ..
    have spawned (other : Nat) : ((s.despawn1Object tables quest).removeObject quest pool).spawned
        other = if other = pool then s.spawned pool - 1 else s.spawned other :=
      update_apply ..
    refine ⟨kept.nodup.erase quest, fun other there => kept.once other (mem_of_mem_erase there),
      fun other => ?_, fun other another => ?_, fun other => ?_, fun other => ?_,
      kept.creature.erase kept.nodup here, kept.go.erase kept.nodup here⟩
    · rw [counted]
      split
      · exact (kept.countedOnce pool).erase quest
      · exact kept.countedOnce other
    · rw [counted]
      change _ ↔ another ∈ s.activeQuests.erase quest ∧ _
      rw [kept.nodup.mem_erase_iff]
      split
      · rename_i same
        subst same
        rw [(kept.countedOnce other).mem_erase_iff, kept.counted, and_assoc]
      next different =>
      rw [kept.counted, and_assoc]
      refine ⟨fun both => ⟨fun same => different ?_, both⟩, And.right⟩
      exact tables.group_unique once member (same ▸ both.2)
    · rw [counted, spawned]
      split
      · rw [length_erase_of_mem inside, kept.spawned]
      · exact kept.spawned other
    · rw [spawned]
      split
      · rename_i same
        have room := kept.limit pool
        rw [same]
        omega
      · exact kept.limit other
  · exact kept

structure Cleared (tables : Tables) (s : PoolMgr) (quests : List Nat) (after : PoolMgr) : Prop where
  kept : Kept tables after
  active : ∀ quest, quest ∈ after.activeQuests ↔ quest ∈ s.activeQuests ∧ quest ∉ quests

theorem Kept.deactivate_all (kept : Kept tables s) {quests : List Nat}
    (members : quests ⊆ tables.group pool) :
    Cleared tables s quests (quests.foldl (PoolMgr.deactivate tables pool) s) := by
  induction quests generalizing s with
  | nil => exact ⟨kept, fun quest => by simp⟩
  | cons first quests ih =>
    have here : first ∈ tables.group pool := members mem_cons_self
    obtain ⟨keeps, active⟩ := ih (kept.deactivate here) (fun _ there =>
      members (mem_cons_of_mem _ there))
    refine ⟨keeps, fun quest => (active quest).trans ?_⟩
    have one : quest ∈ (PoolMgr.deactivate tables pool s first).activeQuests ↔
        quest ∈ s.activeQuests ∧ quest ≠ first := by
      unfold PoolMgr.deactivate
      split
      · exact (kept.nodup.mem_erase_iff).trans and_comm
      · next absent => exact ⟨fun there => ⟨there, fun same => absent (same ▸ there)⟩, And.left⟩
    rw [one, mem_cons, not_or, and_assoc]

theorem Kept.despawnObject (kept : Kept tables s) (pool : Nat) :
    Cleared tables s (tables.group pool) (s.despawnObject tables pool) :=
  kept.deactivate_all (List.Subset.refl _)

theorem Kept.activate_all (kept : Kept tables s) {quests : List Nat} (distinct : quests.Nodup)
    (absent : ∀ quest ∈ quests, quest ∉ s.activeQuests) (members : quests ⊆ tables.group pool)
    (once : ∀ quest ∈ quests, tables.listed quest = 1)
    (room : s.spawned pool + quests.length ≤ tables.maxLimit pool) :
    Kept tables (quests.foldl (PoolMgr.activate tables pool) s) := by
  induction quests generalizing s with
  | nil => exact kept
  | cons first quests ih =>
    obtain ⟨outside, distinct⟩ := nodup_cons.mp distinct
    have new := absent first mem_cons_self
    rw [length_cons] at room
    have keeps := kept.activate new (members mem_cons_self) (once first mem_cons_self)
      (by omega : s.spawned pool < tables.maxLimit pool)
    refine ih keeps distinct (fun quest there inside => ?_)
      (fun _ there => members (mem_cons_of_mem _ there))
      (fun quest there => once quest (mem_cons_of_mem _ there)) ?_
    · have active : quest ∈ first :: s.activeQuests :=
        (insert_of_not_mem new : s.activeQuests.insert first = _) ▸ inside
      rcases mem_cons.mp active with rfl | old
      · exact outside there
      · exact absent quest (mem_cons_of_mem _ there) old
    · have more : (PoolMgr.activate tables pool s first).spawned pool = s.spawned pool + 1 :=
        update_self ..
      omega

end PoolMgr

end OpenWoW.QuestPools
