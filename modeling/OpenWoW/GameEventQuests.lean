import Mathlib.Data.Finset.Basic
import Mathlib.Data.List.Sort
import OpenWoW.Lib.Run

/-! The quests that game events add to creatures and game objects. -/
namespace OpenWoW.GameEvents

open List

/-- The id of a creature or game object, and a quest. -/
abbrev QuestRelation : Type := Nat × Nat

/-- A multimap from the ids to the quests, in the order of the ids. -/
abbrev QuestRelations : Type := List QuestRelation

namespace QuestRelations

/-- Behind the relations of the same id. -/
def insert (relations : QuestRelations) (relation : QuestRelation) : QuestRelations :=
  relations.orderedInsert (fun x y => x.1 < y.1) relation

end QuestRelations

structure EventQuests where
  creatureQuests : Nat → List QuestRelation
  gameObjectQuests : Nat → List QuestRelation

structure QuestState where
  activeEvents : Finset Nat
  creatureRelations : QuestRelations
  goRelations : QuestRelations

/-- `hasCreatureQuestActiveEventExcept` and `hasGameObjectQuestActiveEventExcept`. -/
def hasQuestActiveEventExcept (quests : Nat → List QuestRelation) (active : Finset Nat)
    (quest event : Nat) : Bool :=
  decide (∃ other ∈ active, other ≠ event ∧ ∃ relation ∈ quests other, relation.2 = quest)

/-- `UpdateEventQuests` for the relations of creatures or of game objects. -/
def updateRelations (quests : Nat → List QuestRelation) (active : Finset Nat) (event : Nat)
    (activate : Bool) (relations : QuestRelations) : QuestRelations :=
  (quests event).foldl (fun relations relation =>
    if activate then relations.insert relation
    else if hasQuestActiveEventExcept quests active relation.2 event then relations
    else relations.erase relation) relations

namespace QuestState

def updateEventQuests (tables : EventQuests) (s : QuestState) (event : Nat) (activate : Bool) :
    QuestState :=
  { s with
    creatureRelations :=
      updateRelations tables.creatureQuests s.activeEvents event activate s.creatureRelations
    goRelations :=
      updateRelations tables.gameObjectQuests s.activeEvents event activate s.goRelations }

/-- What `StartEvent` and `StopEvent` do with the active events and the quests. -/
inductive Step where
  | activate (event : Nat)
  | deactivate (event : Nat)
  deriving DecidableEq, Repr

def step (tables : EventQuests) (s : QuestState) : Step → QuestState × Unit
  | .activate event =>
    let s := { s with activeEvents := insert event s.activeEvents }
    (s.updateEventQuests tables event true, ())
  | .deactivate event =>
    let s := { s with activeEvents := s.activeEvents.erase event }
    (s.updateEventQuests tables event false, ())

end QuestState

variable (relations : QuestRelations) (keep : QuestRelation → Bool)
  (quests : Nat → List QuestRelation) (active : Finset Nat) (event : Nat)

theorem count_insert (relation other : QuestRelation) :
    (relations.insert relation).count other = relations.count other + [relation].count other := by
  rw [QuestRelations.insert, (perm_orderedInsert _ relation relations).count_eq,
    count_cons, count_singleton]

theorem filter_insert {relation : QuestRelation} (left : keep relation = false) :
    (relations.insert relation).filter keep = relations.filter keep := by
  induction relations with
  | nil => simp [QuestRelations.insert, left]
  | cons first relations ih =>
    rw [QuestRelations.insert, orderedInsert_cons]
    split
    · rw [filter_cons_of_neg (by simp [left])]
    rw [filter_cons, filter_cons]
    have rest : (relations.orderedInsert (fun x y => x.1 < y.1) relation).filter keep =
        relations.filter keep := ih
    rw [rest]

theorem filter_erase {relation : QuestRelation} (left : keep relation = false) :
    (relations.erase relation).filter keep = relations.filter keep := by
  induction relations with
  | nil => rfl
  | cons first relations ih =>
    by_cases same : first = relation
    · subst same
      rw [erase_cons_head, filter_cons_of_neg (by simp [left])]
    · rw [erase_cons_tail (by simpa using same), filter_cons, filter_cons, ih]

theorem count_updateRelations_activate (relations : QuestRelations) (relation : QuestRelation) :
    (updateRelations quests active event true relations).count relation =
      relations.count relation + (quests event).count relation := by
  unfold updateRelations
  generalize quests event = added
  induction added generalizing relations with
  | nil => rfl
  | cons first added ih =>
    rw [foldl_cons, if_pos rfl, ih, count_insert, count_singleton, count_cons]
    omega

theorem count_updateRelations_deactivate (relations : QuestRelations) (relation : QuestRelation) :
    (updateRelations quests active event false relations).count relation =
      if hasQuestActiveEventExcept quests active relation.2 event then relations.count relation
      else relations.count relation - (quests event).count relation := by
  unfold updateRelations
  generalize quests event = taken
  induction taken generalizing relations with
  | nil => simp
  | cons first taken ih =>
    rw [foldl_cons, ih, if_neg Bool.false_ne_true, count_cons]
    by_cases same : first = relation
    · subst same
      split
      · rfl
      · rw [count_erase_self, beq_self_eq_true, if_pos rfl]
        omega
    · have untouched : (if hasQuestActiveEventExcept quests active first.2 event then relations
          else relations.erase first).count relation = relations.count relation := by
        split
        · rfl
        · exact count_erase_of_ne (Ne.symm same)
      have differ : ¬ (first == relation) = true := by simpa using same
      rw [untouched, if_neg differ, Nat.add_zero]

theorem filter_updateRelations
    {event : Nat} (activate : Bool) (relations : QuestRelations) (keep : QuestRelation → Bool)
    (left : ∀ relation ∈ quests event, keep relation = false) :
    (updateRelations quests active event activate relations).filter keep =
      relations.filter keep := by
  unfold updateRelations
  generalize quests event = own at left
  induction own generalizing relations with
  | nil => rfl
  | cons first own ih =>
    rw [foldl_cons, ih _ fun relation mem => left relation (mem_cons_of_mem first mem)]
    have gone := left first mem_cons_self
    split
    · exact filter_insert relations keep gone
    split
    · rfl
    · exact filter_erase relations keep gone

namespace QuestState

variable (tables : EventQuests)

/-- Some active event gives the relation. -/
def Given (s : QuestState) (relation : QuestRelation) : Prop :=
  ∃ event ∈ s.activeEvents, relation ∈ tables.creatureQuests event

def Assigned (relation : QuestRelation) : Prop := ∃ event, relation ∈ tables.creatureQuests event

open Classical in
/-- A relation of an event is there once while an active event gives it and else not, and the
permanent relations are what they were. -/
structure Right (permanent : QuestRelations) (s : QuestState) : Prop where
  given : ∀ relation, Assigned tables relation →
    s.creatureRelations.count relation = if Given tables s relation then 1 else 0
  permanent : s.creatureRelations.filter (fun relation => decide ¬ Assigned tables relation) =
    permanent

/-- An event is activated that has no relation twice and none that an active event gives; or an
event is deactivated of which every relation, whose quest another active event gives, is itself
a relation of another active event. -/
def Careful (s : QuestState) : Step → Prop
  | .activate event =>
    (tables.creatureQuests event).Nodup ∧
      ∀ relation ∈ tables.creatureQuests event, ¬ Given tables s relation
  | .deactivate event =>
    event ∈ s.activeEvents → ∀ relation ∈ tables.creatureQuests event,
      hasQuestActiveEventExcept tables.creatureQuests s.activeEvents relation.2 event = true →
        ∃ other ∈ s.activeEvents, other ≠ event ∧ relation ∈ tables.creatureQuests other

variable {tables}

theorem hasQuest_erase (quest event : Nat) :
    hasQuestActiveEventExcept tables.creatureQuests (active.erase event) quest event =
      hasQuestActiveEventExcept tables.creatureQuests active quest event := by
  apply decide_eq_decide.mpr
  constructor
  · rintro ⟨other, mem, rest⟩
    exact ⟨other, Finset.mem_of_mem_erase mem, rest⟩
  · rintro ⟨other, mem, apart, rest⟩
    exact ⟨other, Finset.mem_erase.mpr ⟨apart, mem⟩, apart, rest⟩

theorem given_erase (s : QuestState) (event : Nat) (relation : QuestRelation) :
    Given tables (s.step tables (.deactivate event)).1 relation ↔
      ∃ other ∈ s.activeEvents, other ≠ event ∧ relation ∈ tables.creatureQuests other := by
  constructor
  · rintro ⟨other, mem, there⟩
    obtain ⟨apart, mem⟩ := Finset.mem_erase.mp mem
    exact ⟨other, mem, apart, there⟩
  · rintro ⟨other, mem, apart, there⟩
    exact ⟨other, Finset.mem_erase.mpr ⟨apart, mem⟩, there⟩

theorem given_insert (s : QuestState) (event : Nat) (relation : QuestRelation) :
    Given tables (s.step tables (.activate event)).1 relation ↔
      relation ∈ tables.creatureQuests event ∨ Given tables s relation := by
  constructor
  · rintro ⟨other, mem, there⟩
    rcases Finset.mem_insert.mp mem with rfl | mem
    · exact .inl there
    · exact .inr ⟨other, mem, there⟩
  · rintro (there | ⟨other, mem, there⟩)
    · exact ⟨event, Finset.mem_insert_self event _, there⟩
    · exact ⟨other, Finset.mem_insert_of_mem mem, there⟩

variable {permanent : QuestRelations} {s : QuestState}

open Classical in
section
variable (right : Right tables permanent s)
include right

theorem step_permanent (a : Step) :
    ((s.step tables a).1.creatureRelations.filter fun relation =>
      decide ¬ Assigned tables relation) = permanent := by
  have gone : ∀ event, ∀ relation ∈ tables.creatureQuests event,
      (decide ¬ Assigned tables relation) = false :=
    fun event relation mem => decide_eq_false (not_not.mpr ⟨event, mem⟩)
  cases a with
  | activate event =>
    exact (filter_updateRelations _ _ true _ _ (gone event)).trans right.permanent
  | deactivate event =>
    exact (filter_updateRelations _ _ false _ _ (gone event)).trans right.permanent

theorem activate_iff (event : Nat) :
    Right tables permanent (s.step tables (.activate event)).1 ↔
      Careful tables s (.activate event) := by
  classical
  have counts : ∀ relation, (s.step tables (.activate event)).1.creatureRelations.count relation =
      s.creatureRelations.count relation + (tables.creatureQuests event).count relation :=
    fun relation => count_updateRelations_activate _ _ event _ relation
  constructor
  · intro after
    have own : ∀ relation ∈ tables.creatureQuests event,
        s.creatureRelations.count relation + (tables.creatureQuests event).count relation = 1 := by
      intro relation mem
      rw [← counts, after.given relation ⟨event, mem⟩,
        if_pos ((given_insert s event relation).mpr (.inl mem))]
    refine ⟨nodup_iff_count_le_one.mpr fun relation => ?_, fun relation mem given => ?_⟩
    · by_cases mem : relation ∈ tables.creatureQuests event
      · have once := own relation mem
        omega
      · rw [count_eq_zero_of_not_mem mem]
        exact Nat.zero_le 1
    · have once := own relation mem
      have there := count_pos_iff.mpr mem
      rw [right.given relation ⟨event, mem⟩, if_pos given] at once
      omega
  · rintro ⟨distinct, fresh⟩
    refine ⟨fun relation assigned => ?_, step_permanent right (.activate event)⟩
    rw [counts, right.given relation assigned]
    by_cases mem : relation ∈ tables.creatureQuests event
    · rw [if_neg (fresh relation mem), if_pos ((given_insert s event relation).mpr (.inl mem)),
        count_eq_one_of_mem distinct mem]
    rw [count_eq_zero_of_not_mem mem, Nat.add_zero]
    have same : Given tables (s.step tables (.activate event)).1 relation ↔
        Given tables s relation := by
      rw [given_insert, or_iff_right mem]
    rw [if_congr same rfl rfl]

theorem deactivate_iff (event : Nat) :
    Right tables permanent (s.step tables (.deactivate event)).1 ↔
      Careful tables s (.deactivate event) := by
  classical
  have counts : ∀ relation,
      (s.step tables (.deactivate event)).1.creatureRelations.count relation =
        if hasQuestActiveEventExcept tables.creatureQuests s.activeEvents relation.2 event then
          s.creatureRelations.count relation
        else s.creatureRelations.count relation - (tables.creatureQuests event).count relation := by
    intro relation
    rw [← hasQuest_erase]
    exact count_updateRelations_deactivate _ _ event _ relation
  constructor
  · intro after active relation mem kept
    have count := counts relation
    rw [if_pos kept, right.given relation ⟨event, mem⟩, if_pos ⟨event, active, mem⟩,
      after.given relation ⟨event, mem⟩] at count
    apply (given_erase s event relation).mp
    by_contra absent
    rw [if_neg absent] at count
    cases count
  · intro careful
    refine ⟨fun relation assigned => ?_, step_permanent right (.deactivate event)⟩
    rw [counts, right.given relation assigned]
    by_cases given : Given tables (s.step tables (.deactivate event)).1 relation
    · obtain ⟨other, mem, apart, there⟩ := (given_erase s event relation).mp given
      have quest : hasQuestActiveEventExcept tables.creatureQuests s.activeEvents relation.2
          event = true := decide_eq_true ⟨other, mem, apart, relation, there, rfl⟩
      rw [if_pos quest, if_pos ⟨other, mem, there⟩, if_pos given]
    rw [if_neg given]
    by_cases before : Given tables s relation
    · obtain ⟨other, mem, there⟩ := before
      have same : other = event := by
        by_contra apart
        exact given ((given_erase s event relation).mpr ⟨other, mem, apart, there⟩)
      subst same
      have quest : ¬ hasQuestActiveEventExcept tables.creatureQuests s.activeEvents relation.2
          other = true := by
        intro quest
        exact given ((given_erase s other relation).mpr (careful mem relation there quest))
      have own := count_pos_iff.mpr there
      rw [if_neg quest, if_pos ⟨other, mem, there⟩]
      omega
    · rw [if_neg before]
      split
      · rfl
      · exact Nat.zero_sub _

theorem step_iff (a : Step) :
    Right tables permanent (s.step tables a).1 ↔ Careful tables s a := by
  cases a with
  | activate event => exact activate_iff right event
  | deactivate event => exact deactivate_iff right event

end

/-- After every step of a run the relations of the events follow the active events exactly when
every step is careful. The relations start with permanent ones that no event has. -/
theorem right_iff (tables : EventQuests) (permanent goRelations : QuestRelations)
    (apart : ∀ relation ∈ permanent, ¬ Assigned tables relation) (steps : List Step) :
    (∀ t ∈ Run.trace (step tables) ⟨∅, permanent, goRelations⟩ steps,
      Right tables permanent t.after) ↔
    ∀ t ∈ Run.trace (step tables) ⟨∅, permanent, goRelations⟩ steps,
      Careful tables t.before t.input := by
  classical
  have start : Right tables permanent ⟨∅, permanent, goRelations⟩ := by
    refine ⟨fun relation assigned => ?_, ?_⟩
    · have idle : ¬ Given tables ⟨∅, permanent, goRelations⟩ relation :=
        fun ⟨event, mem, _⟩ => absurd mem (Finset.notMem_empty event)
      rw [if_neg idle]
      exact count_eq_zero_of_not_mem fun mem => apart relation mem assigned
    · exact filter_eq_self.mpr fun relation mem => decide_eq_true (apart relation mem)
  exact Run.good_iff (step tables) (Careful tables) (Right tables permanent)
    (fun t => Right tables permanent t.after) (fun s a right => step_iff right a)
    (fun s a right careful => (step_iff right a).mpr careful) _ steps start

def sharedQuest : EventQuests where
  creatureQuests := fun event => if event = 1 then [(100, 7)] else if event = 2 then [(200, 7)]
    else []
  gameObjectQuests := fun _ => []

/-- One event comes, and goes again. -/
theorem right_iff_alone :
    (∀ t ∈ Run.trace (step sharedQuest) ⟨∅, [(300, 8)], []⟩ [.activate 1, .deactivate 1],
      Right sharedQuest [(300, 8)] t.after) ↔
    ∀ t ∈ Run.trace (step sharedQuest) ⟨∅, [(300, 8)], []⟩ [.activate 1, .deactivate 1],
      Careful sharedQuest t.before t.input :=
  right_iff sharedQuest [(300, 8)] [] (by
    rintro relation mem ⟨event, there⟩
    obtain rfl := mem_singleton.mp mem
    unfold sharedQuest at there
    dsimp only at there
    split at there
    · exact absurd there (by decide)
    split at there
    · exact absurd there (by decide)
    · cases there) _

/-- The quest stays with creature 100 when its event ends, because of creature 200. -/
theorem right_fails :
    ¬ ∀ (tables : EventQuests) (permanent goRelations : QuestRelations),
      (∀ relation ∈ permanent, ¬ Assigned tables relation) → ∀ steps : List Step,
        ∀ t ∈ Run.trace (step tables) ⟨∅, permanent, goRelations⟩ steps,
          Right tables permanent t.after := by
  classical
  intro claim
  have right := claim sharedQuest [] [] nofun [.activate 1, .activate 2, .deactivate 1] _
    (.tail _ (.tail _ (.head _)))
  have count := right.given (100, 7) ⟨1, by decide⟩
  have stays : (Run.take (step sharedQuest) (step sharedQuest (step sharedQuest ⟨∅, [], []⟩
      (.activate 1)).1 (.activate 2)).1 (.deactivate 1)).after.creatureRelations.count (100, 7) =
      1 := by decide
  rw [stays] at count
  have gone : ¬ Given sharedQuest (Run.take (step sharedQuest) (step sharedQuest (step sharedQuest
      ⟨∅, [], []⟩ (.activate 1)).1 (.activate 2)).1 (.deactivate 1)).after (100, 7) := by
    rintro ⟨event, mem, there⟩
    have second : event = 2 := by
      have active : event ∈ ({2} : Finset Nat) := mem
      exact Finset.mem_singleton.mp active
    subst second
    exact absurd there (by decide)
  rw [if_neg gone] at count
  cases count

end QuestState

end OpenWoW.GameEvents
