import OpenWoW.Belongings

/-! Item objectives follow what is owned, and money quests follow the wallet. -/
namespace OpenWoW.Quests

open Storage
open PlayerState (addedCount removedCount addedTarget)

variable (w : World) (s : PlayerState)

structure Logged (questId : Nat) (quest : Quest) : Prop where
  nonzero : questId ≠ 0
  slot : ∃ slot, (s.slots slot).questId = questId
  known : w.getQuestTemplate questId = some quest

variable {w s}

theorem addedTarget_same (entry : Nat) (slots : List (Fin maxQuestLogSize)) (s : PlayerState) :
    PlayerState.SameItems s (addedTarget w entry slots s).1 ∧
      (addedTarget w entry slots s).1.slots = s.slots ∧
      ∀ questId, (addedTarget w entry slots s).1.data questId = s.data questId := by
  induction slots generalizing s with
  | nil => exact ⟨PlayerState.SameItems.refl s, rfl, fun _ => rfl⟩
  | cons slot rest ih =>
    unfold addedTarget
    simp only
    have touched := ih (s.touch (s.slots slot).questId)
    have after : PlayerState.SameItems s
          (addedTarget w entry rest (s.touch (s.slots slot).questId)).1 ∧
        (addedTarget w entry rest (s.touch (s.slots slot).questId)).1.slots = s.slots ∧
        ∀ questId, (addedTarget w entry rest (s.touch (s.slots slot).questId)).1.data questId =
          s.data questId :=
      ⟨(PlayerState.touch_same _).trans touched.1, touched.2.1, fun questId => by
        rw [touched.2.2 questId, PlayerState.data_touch]⟩
    split
    · exact ih s
    split
    · exact after
    split
    · exact after
    split
    · exact after
    · exact ⟨PlayerState.touch_same _, rfl, fun questId => PlayerState.data_touch _ _⟩

theorem Quest.objective_some {quest : Quest} {entry : Nat} {j : Fin questItemObjectivesCount}
    (found : quest.objective entry = some j) : quest.requiredItemId j = entry := by
  simpa using List.find?_some found

theorem addedTarget_some {entry : Nat} {slots : List (Fin maxQuestLogSize)} {questId : Nat}
    {quest : Quest} {j : Fin questItemObjectivesCount} (s : PlayerState)
    (found : (addedTarget w entry slots s).2 = some (questId, quest, j)) :
    Logged w s questId quest ∧ (s.data questId).status = .incomplete ∧ quest.deliver = true ∧
      quest.requiredItemId j = entry := by
  induction slots generalizing s with
  | nil => cases found
  | cons slot rest ih =>
    unfold addedTarget at found
    simp only at found
    have later : (addedTarget w entry rest (s.touch (s.slots slot).questId)).2 =
        some (questId, quest, j) → Logged w s questId quest ∧
          (s.data questId).status = .incomplete ∧ quest.deliver = true ∧
          quest.requiredItemId j = entry := by
      intro found
      have ⟨logged, rest⟩ := ih _ found
      rw [PlayerState.data_touch] at rest
      exact ⟨⟨logged.nonzero, logged.slot, logged.known⟩, rest⟩
    split at found
    · exact ih s found
    next nonzero =>
    split at found
    · exact later found
    next incomplete =>
    split at found
    · exact later found
    next known =>
    split at found
    · exact later found
    next k objective =>
    simp only [Option.some.injEq, Prod.mk.injEq] at found
    obtain ⟨rfl, rfl, rfl⟩ := found
    split at objective
    · rename_i deliver
      rw [PlayerState.data_touch, not_not] at incomplete
      exact ⟨⟨nonzero, ⟨slot, rfl⟩, known⟩, incomplete, deliver, Quest.objective_some objective⟩
    · cases objective

end OpenWoW.Quests
