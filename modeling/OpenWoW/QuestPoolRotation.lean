import OpenWoW.QuestPoolRuns

/-! Which rotations of quest pools stay inside their pool and its limit. -/
namespace OpenWoW.QuestPools

open List

variable {tables : Tables}

namespace PoolMgr

variable {s : PoolMgr} {pool : Nat}

theorem counted_activate_all (quests : List Nat) :
    (quests.foldl (activate tables pool) s).counted pool = quests.reverse ++ s.counted pool := by
  induction quests generalizing s with
  | nil => rfl
  | cons first quests ih =>
    rw [foldl_cons, ih, reverse_cons, append_assoc]
    congr 1
    exact Function.update_self ..

theorem spawned_activate_all (quests : List Nat) :
    (quests.foldl (activate tables pool) s).spawned pool = s.spawned pool + quests.length := by
  induction quests generalizing s with
  | nil => rfl
  | cons first quests ih =>
    rw [foldl_cons, ih, length_cons]
    have more : (activate tables pool s first).spawned pool = s.spawned pool + 1 :=
      Function.update_self ..
    omega

theorem count_activate_all (tables : Tables) (s : PoolMgr) (pool : Nat) (quests : List Nat)
    (giver quest : Nat) :
    ((quests.foldl (activate tables pool) s).creatureQuests.count (giver, quest) =
      s.creatureQuests.count (giver, quest) + quests.count quest *
        (tables.pooled tables.creatureStarters).count (quest, giver)) ∧
    ((quests.foldl (activate tables pool) s).goQuests.count (giver, quest) =
      s.goQuests.count (giver, quest) + quests.count quest *
        (tables.pooled tables.goStarters).count (quest, giver)) := by
  induction quests generalizing s with
  | nil => simp
  | cons first quests ih =>
    obtain ⟨creature, go⟩ := ih (s := activate tables pool s first)
    have creatureOne : (activate tables pool s first).creatureQuests.count (giver, quest) = _ :=
      count_insertRelations (tables.pooled tables.creatureStarters) s.creatureQuests first giver
        quest
    have goOne : (activate tables pool s first).goQuests.count (giver, quest) = _ :=
      count_insertRelations (tables.pooled tables.goStarters) s.goQuests first giver quest
    rw [foldl_cons, creature, go, creatureOne, goOne, count_cons]
    by_cases same : quest = first
    · subst same
      simp only [if_true, beq_self_eq_true, Nat.add_mul, Nat.one_mul]
      omega
    · have different : ¬(first == quest) = true := fun equal => same (beq_iff_eq.mp equal).symm
      simp [same, different]

def activeMembers (tables : Tables) (s : PoolMgr) (pool : Nat) : Nat :=
  s.activeQuests.countP (· ∈ tables.group pool)

theorem activeMembers_activate (tables : Tables) (s : PoolMgr) (pool quest : Nat) :
    (activate tables pool s quest).activeMembers tables pool ≤ s.activeMembers tables pool + 1 ∧
      ((activate tables pool s quest).activeMembers tables pool =
        s.activeMembers tables pool + 1 → quest ∉ s.activeQuests) := by
  change (s.activeQuests.insert quest).countP _ ≤ _ ∧ ((s.activeQuests.insert quest).countP _ = _ → _)
  by_cases here : quest ∈ s.activeQuests
  · rw [insert_of_mem here]
    exact ⟨Nat.le_succ _, fun same => absurd same (Nat.ne_of_lt (Nat.lt_succ_self _))⟩
  rw [insert_of_not_mem here, countP_cons]
  unfold activeMembers
  exact ⟨by split <;> omega, fun _ => here⟩

theorem activeMembers_activate_all (tables : Tables) (s : PoolMgr) (pool : Nat)
    (quests : List Nat) :
    (quests.foldl (activate tables pool) s).activeMembers tables pool ≤
      s.activeMembers tables pool + quests.length ∧
    ((quests.foldl (activate tables pool) s).activeMembers tables pool =
      s.activeMembers tables pool + quests.length →
        quests.Nodup ∧ ∀ quest ∈ quests, quest ∉ s.activeQuests) := by
  induction quests generalizing s with
  | nil => exact ⟨Nat.le_refl _, fun _ => ⟨nodup_nil, nofun⟩⟩
  | cons first quests ih =>
    obtain ⟨least, all⟩ := ih (s := activate tables pool s first)
    obtain ⟨one, isNew⟩ := activeMembers_activate tables s pool first
    rw [foldl_cons, length_cons]
    refine ⟨by omega, fun same => ?_⟩
    obtain ⟨distinct, absent⟩ := all (by omega)
    have new := isNew (by omega)
    have outside (quest : Nat) (there : quest ∈ quests) :
        quest ≠ first ∧ quest ∉ s.activeQuests := by
      have missing := absent quest there
      change quest ∉ s.activeQuests.insert first at missing
      rw [mem_insert_iff, not_or] at missing
      exact missing
    refine ⟨nodup_cons.mpr ⟨fun there => (outside first there).1 rfl, distinct⟩,
      fun quest there => ?_⟩
    rcases mem_cons.mp there with rfl | later
    · exact new
    · exact (outside quest later).2

theorem Kept.activeMembers (kept : Kept tables s) (pool : Nat) :
    s.activeMembers tables pool = s.spawned pool := by
  unfold PoolMgr.activeMembers
  rw [kept.spawned, countP_eq_length_filter]
  refine List.Perm.length_eq ((perm_ext_iff_of_nodup (kept.nodup.filter _)
    (kept.countedOnce pool)).mpr fun quest => ?_)
  rw [kept.counted, mem_filter, decide_eq_true_iff]

theorem select_mem {container : List Nat} (some : container ≠ []) (random : Nat) :
    select container random ∈ container := by
  have inside := Nat.mod_lt random (length_pos_of_ne_nil some)
  unfold select
  rw [getD_eq_getElem?_getD, getElem?_eq_getElem inside, Option.getD_some]
  exact getElem_mem inside

theorem decrease_eq {limit : Nat} (positive : limit ≠ 0) (small : limit < 2 ^ 32) :
    decrease limit = limit - 1 := by
  unfold decrease
  omega

/-- The loop selects different quests, as many as it may and can. -/
structure Selected (limit : Nat) (newQuests selection : List Nat) : Prop where
  subset : selection ⊆ newQuests
  nodup : selection.Nodup
  some : selection ≠ []
  short : limit ≠ 0 → selection.length ≤ limit
  all : limit ≠ 0 → newQuests.length ≤ limit → newQuests ⊆ selection

theorem selected_spec (random : Nat → Nat) {turns limit : Nat} {newQuests : List Nat}
    (small : limit < 2 ^ 32) (distinct : newQuests.Nodup) (some : newQuests ≠ [])
    (enough : newQuests.length = turns) :
    Selected limit newQuests (selected random turns limit newQuests) := by
  induction turns generalizing limit newQuests with
  | zero => exact absurd (length_eq_zero_iff.mp enough) some
  | succ turns ih =>
    have here := select_mem some (random turns)
    have fewer := length_erase_of_mem here
    have decreased : decrease limit < 2 ^ 32 := Nat.mod_lt _ (by decide)
    unfold selected
    dsimp only
    generalize select newQuests (random turns) = quest at here fewer
    split
    · rename_i more
      obtain ⟨subset, nodup, _, short, all⟩ :=
        ih decreased (distinct.erase quest) more.2 (by omega)
      refine ⟨fun other there => ?_, nodup_cons.mpr ⟨fun there => ?_, nodup⟩,
        cons_ne_nil _ _, fun positive => ?_, fun positive few other there => ?_⟩
      · rcases mem_cons.mp there with rfl | later
        · exact here
        · exact mem_of_mem_erase (subset later)
      · exact (distinct.mem_erase_iff.mp (subset there)).1 rfl
      · have less := short more.1
        have one := decrease_eq positive small
        rw [length_cons]
        omega
      · by_cases same : other = quest
        · exact same ▸ mem_cons_self
        · refine mem_cons_of_mem _ (all more.1 ?_ (distinct.mem_erase_iff.mpr ⟨same, there⟩))
          rw [decrease_eq positive small]
          omega
    · rename_i last
      refine ⟨cons_subset.mpr ⟨here, nil_subset _⟩, nodup_singleton _,
        cons_ne_nil _ _, fun positive => Nat.one_le_iff_ne_zero.mpr positive,
        fun positive few other there => ?_⟩
      by_cases same : other = quest
      · exact same ▸ mem_cons_self
      have left : other ∈ newQuests.erase quest := distinct.mem_erase_iff.mpr ⟨same, there⟩
      have stopped : decrease limit = 0 := by
        by_contra more
        exact last ⟨more, ne_nil_of_mem left⟩
      rw [decrease_eq positive small] at stopped
      have length := length_pos_of_mem left
      omega

structure Recycled (limit : Nat) (newQuests result : List Nat) : Prop where
  nodup : result.Nodup
  kept : newQuests ⊆ result
  short : result.length ≤ limit

theorem recycle_spec {limit : Nat} (random : Nat → Nat) (turns : Nat) (current : List Nat)
    {newQuests : List Nat} (distinct : newQuests.Nodup) (short : newQuests.length < limit) :
    Recycled limit newQuests (recycle limit random turns current newQuests) := by
  induction turns generalizing current newQuests with
  | zero => exact ⟨distinct, List.Subset.refl _, Nat.le_of_lt short⟩
  | succ turns ih =>
    unfold recycle
    dsimp only
    generalize select current (random turns) = quest
    have longer : (newQuests.insert quest).length ≤ newQuests.length + 1 := by
      by_cases here : quest ∈ newQuests
      · rw [insert_of_mem here]
        exact Nat.le_succ _
      · rw [insert_of_not_mem here]
        exact Nat.le_refl _
    have kept : newQuests ⊆ newQuests.insert quest := fun _ there => mem_insert_of_mem there
    split
    · rename_i more
      obtain ⟨nodup, subset, few⟩ := ih (current.erase quest) (distinct.insert) more.1
      exact ⟨nodup, List.Subset.trans kept subset, few⟩
    · exact ⟨distinct.insert, kept, by omega⟩

theorem recycle_ne_nil (limit : Nat) (random : Nat → Nat) {turns : Nat} (current newQuests : List Nat)
    (some : newQuests ≠ [] ∨ 0 < turns) : recycle limit random turns current newQuests ≠ [] := by
  induction turns generalizing current newQuests with
  | zero => exact some.resolve_right (Nat.lt_irrefl 0)
  | succ turns ih =>
    have here : newQuests.insert (select current (random turns)) ≠ [] :=
      ne_nil_of_mem mem_insert_self
    unfold recycle
    dsimp only
    split
    · exact ih _ _ (.inl here)
    · exact here

theorem newQuests_nodup (pool : Nat) (recycling : Nat → Nat) :
    (s.newQuests tables pool recycling).Nodup := by
  unfold newQuests
  dsimp only
  split
  · next more => exact (recycle_spec recycling _ _ (nodup_dedup _) more.1).nodup
  · exact nodup_dedup _

theorem mem_newQuests {quest : Nat} (recycling : Nat → Nat) (member : quest ∈ tables.group pool)
    (absent : quest ∉ s.activeQuests) : quest ∈ s.newQuests tables pool recycling := by
  have inactive : quest ∈ ((tables.group pool).filter (· ∉ s.activeQuests)).dedup :=
    mem_dedup.mpr (mem_filter.mpr ⟨member, decide_eq_true absent⟩)
  unfold newQuests
  dsimp only
  split
  · next more => exact (recycle_spec recycling _ _ (nodup_dedup _) more.1).kept inactive
  · exact inactive

theorem newQuests_short {quest : Nat} {recycling : Nat → Nat}
    (there : quest ∈ s.newQuests tables pool recycling) (other : quest ∉ tables.group pool) :
    (s.newQuests tables pool recycling).length ≤ tables.maxLimit pool := by
  unfold newQuests at there ⊢
  dsimp only at there ⊢
  split at there
  · rename_i more
    rw [if_pos more]
    exact (recycle_spec recycling _ _ (nodup_dedup _) more.1).short
  · exact absurd (mem_filter.mp (mem_dedup.mp there)).1 other

end PoolMgr

open PoolMgr

/-- What a call of `SpawnObject` leaves for its pool, and what every call leaves. -/
structure Sound (tables : Tables) (t : Run.Taken PoolMgr Input Unit) : Prop where
  creature : t.after.creatureQuests.Nodup
  go : t.after.goQuests.Nodup
  members : ∀ pool triggerFrom recycling choosing,
    t.input = .spawnPool pool triggerFrom recycling choosing →
      t.after.counted pool ⊆ tables.group pool
  count : ∀ pool triggerFrom recycling choosing,
    t.input = .spawnPool pool triggerFrom recycling choosing →
      t.after.activeMembers tables pool = t.after.spawned pool ∧
        t.after.spawned pool ≤ tables.maxLimit pool

/-- The saved quests fit, or the quests that are drawn are the pool's own. -/
def Careful (tables : Tables) (s : PoolMgr) : Input → Prop
  | .spawnPool pool triggerFrom recycling choosing =>
    let result := (s.saved.filter (·.1 = pool)).map (·.2)
    let rows := fetched (tables.maxLimit pool) result
    let new := s.newQuests tables pool recycling
    tables.group pool = [] ∨
      if ¬triggerFrom ∧ result ≠ [] then
        rows.Nodup ∧ s.spawned pool + rows.length ≤ tables.maxLimit pool ∧
          ∀ quest ∈ rows, quest ∈ tables.group pool ∧ quest ∉ s.activeQuests ∧
            tables.listed quest = 1
      else
        tables.maxLimit pool ≠ 0 ∧ (∀ quest ∈ new, quest ∈ tables.group pool) ∧
          ∀ quest ∈ selected choosing new.length (tables.maxLimit pool) new, tables.listed quest = 1
  | .despawnPool _ => True
  | .saveQuestsToDB => True

namespace PoolMgr

variable {s : PoolMgr} {pool : Nat}

theorem Kept.save (kept : Kept tables s) : Kept tables (s.saveQuestsToDB tables) :=
  ⟨kept.nodup, kept.once, kept.countedOnce, kept.counted, kept.spawned, kept.limit, kept.creature,
    kept.go⟩

/-- What holds of a pool after its quests became active. -/
def Fits (tables : Tables) (pool : Nat) (s : PoolMgr) : Prop :=
  s.creatureQuests.Nodup ∧ s.goQuests.Nodup ∧ s.counted pool ⊆ tables.group pool ∧
    s.activeMembers tables pool = s.spawned pool ∧ s.spawned pool ≤ tables.maxLimit pool

theorem Kept.fits (kept : Kept tables s) (pool : Nat) : Fits tables pool s :=
  ⟨kept.creature.nodup tables.creatureDistinct kept.once, kept.go.nodup tables.goDistinct kept.once,
    fun quest there => ((kept.counted pool quest).mp there).2, kept.activeMembers pool,
    kept.limit pool⟩

theorem listed_of_fits {quests : List Nat}
    (fits : Fits tables pool (quests.foldl (activate tables pool) s)) {quest : Nat}
    (there : quest ∈ quests) (member : quest ∈ tables.group pool) : tables.listed quest = 1 := by
  have row : 1 ≤ tables.listed quest := by
    have inside := (mem_filter.mp (Tables.mem_group.mp member)).1
    exact countP_pos_iff.mpr ⟨_, inside, decide_eq_true rfl⟩
  have one := one_le_count_iff.mpr there
  obtain ⟨giver, many⟩ := Tables.exists_giver member
  obtain ⟨creature, go⟩ := count_activate_all tables s pool quests giver quest
  have creatureOnce := nodup_iff_count_le_one.mp fits.1 (giver, quest)
  have goOnce := nodup_iff_count_le_one.mp fits.2.1 (giver, quest)
  rw [creature] at creatureOnce
  rw [go] at goOnce
  rcases many with many | many
  · have less := Nat.le_mul_of_pos_left
      ((tables.pooled tables.creatureStarters).count (quest, giver)) one
    omega
  · have less := Nat.le_mul_of_pos_left ((tables.pooled tables.goStarters).count (quest, giver)) one
    omega

theorem Kept.fits_restored_iff (kept : Kept tables s) (rows : List Nat) :
    Fits tables pool (rows.foldl (PoolMgr.activate tables pool) s) ↔
      rows.Nodup ∧ s.spawned pool + rows.length ≤ tables.maxLimit pool ∧
        ∀ quest ∈ rows, quest ∈ tables.group pool ∧ quest ∉ s.activeQuests ∧
          tables.listed quest = 1 := by
  constructor
  · intro fits
    have members : rows ⊆ tables.group pool := by
      intro quest there
      refine fits.2.2.1 ?_
      rw [counted_activate_all]
      exact mem_append_left _ (mem_reverse.mpr there)
    obtain ⟨_, all⟩ := activeMembers_activate_all tables s pool rows
    have count := fits.2.2.2.1
    have limit := fits.2.2.2.2
    rw [spawned_activate_all] at count limit
    obtain ⟨distinct, absent⟩ := all (by rw [count, kept.activeMembers])
    exact ⟨distinct, limit, fun quest there =>
      ⟨members there, absent quest there, listed_of_fits fits there (members there)⟩⟩
  · rintro ⟨distinct, room, all⟩
    exact (kept.activate_all distinct (fun quest there => (all quest there).2.1)
      (fun quest there => (all quest there).1) (fun quest there => (all quest there).2.2)
      room).fits pool

/-- The conditions of a rotation, with the invariant that it keeps. -/
theorem Kept.fits_rotated_iff (kept : Kept tables s) (some : tables.group pool ≠ [])
    (recycling choosing : Nat → Nat) :
    let new := s.newQuests tables pool recycling
    let selection := selected choosing new.length (tables.maxLimit pool) new
    let after := selection.foldl (PoolMgr.activate tables pool) (s.despawnObject tables pool)
    let careful := tables.maxLimit pool ≠ 0 ∧ (∀ quest ∈ new, quest ∈ tables.group pool) ∧
      ∀ quest ∈ selection, tables.listed quest = 1
    new ≠ [] ∧ (Fits tables pool after ↔ careful) ∧ (careful → Kept tables after) := by
  intro new selection after careful
  obtain ⟨cleared, active⟩ := kept.despawnObject pool
  have nobody : ∀ quest ∈ tables.group pool,
      quest ∉ (s.despawnObject tables pool).activeQuests := fun quest member there =>
    ((active quest).mp there).2 member
  have none : (s.despawnObject tables pool).spawned pool = 0 := by
    rw [cleared.spawned, length_eq_zero_iff, eq_nil_iff_forall_not_mem]
    intro quest there
    obtain ⟨isActive, member⟩ := (cleared.counted pool quest).mp there
    exact nobody quest member isActive
  have nonempty : new ≠ [] := by
    by_cases all : ∃ quest ∈ tables.group pool, quest ∉ s.activeQuests
    · obtain ⟨quest, member, absent⟩ := all
      exact ne_nil_of_mem (mem_newQuests recycling member absent)
    -- all members are active, so there is a limit and the recycling finds one of them
    obtain ⟨quest, member⟩ := exists_mem_of_ne_nil _ some
    have isActive : quest ∈ s.activeQuests := by
      by_contra absent
      exact all ⟨quest, member, absent⟩
    have counted := length_pos_of_mem ((kept.counted pool quest).mpr ⟨isActive, member⟩)
    have limit := kept.limit pool
    rw [kept.spawned] at limit
    have nothing : (tables.group pool).filter (· ∉ s.activeQuests) = [] :=
      filter_eq_nil_iff.mpr fun other inside absent =>
        all ⟨other, inside, of_decide_eq_true absent⟩
    change s.newQuests tables pool recycling ≠ []
    unfold newQuests
    rw [nothing, dedup_nil, if_pos ⟨Nat.lt_of_lt_of_le counted limit, ne_nil_of_mem isActive⟩]
    exact recycle_ne_nil _ _ _ _ (.inr (length_pos_of_mem isActive))
  have selects : Selected (tables.maxLimit pool) new selection :=
    selected_spec choosing (tables.maxLimit_lt pool) (newQuests_nodup pool recycling) nonempty rfl
  have keeps : careful → Kept tables after := by
    rintro ⟨limited, own, once⟩
    refine cleared.activate_all selects.nodup (fun quest there =>
      nobody quest (own quest (selects.subset there))) (fun quest there =>
      own quest (selects.subset there)) once ?_
    rw [none, Nat.zero_add]
    exact selects.short limited
  refine ⟨nonempty, ⟨fun fits => ?_, fun careful => (keeps careful).fits pool⟩, keeps⟩
  have members : selection ⊆ tables.group pool := by
    intro quest there
    refine fits.2.2.1 ?_
    rw [counted_activate_all]
    exact mem_append_left _ (mem_reverse.mpr there)
  have limited : tables.maxLimit pool ≠ 0 := by
    intro zero
    have limit := fits.2.2.2.2
    rw [spawned_activate_all, none, zero] at limit
    exact selects.some (length_eq_zero_iff.mp (by omega))
  refine ⟨limited, fun quest there => ?_, fun quest there =>
    listed_of_fits fits there (members there)⟩
  by_contra other
  exact other (members (selects.all limited (newQuests_short there other) there))

theorem Kept.spawnPool_iff (kept : Kept tables s) (triggerFrom : Bool)
    (recycling choosing : Nat → Nat) :
    (Fits tables pool (s.spawnPool tables pool triggerFrom recycling choosing) ↔
      Careful tables s (.spawnPool pool triggerFrom recycling choosing)) ∧
    (Careful tables s (.spawnPool pool triggerFrom recycling choosing) →
      Kept tables (s.spawnPool tables pool triggerFrom recycling choosing)) := by
  unfold PoolMgr.spawnPool Careful
  dsimp only
  by_cases empty : tables.group pool = []
  · rw [if_pos empty]
    exact ⟨⟨fun _ => .inl empty, fun _ => kept.fits pool⟩, fun _ => kept⟩
  rw [if_neg empty]
  split
  · rename_i restores
    rw [kept.fits_restored_iff]
    refine ⟨⟨.inr, fun careful => careful.resolve_left empty⟩, fun careful => ?_⟩
    obtain ⟨distinct, room, all⟩ := careful.resolve_left empty
    exact kept.activate_all distinct (fun quest there => (all quest there).2.1)
      (fun quest there => (all quest there).1) (fun quest there => (all quest there).2.2) room
  · obtain ⟨some, rotated, keeps⟩ := kept.fits_rotated_iff empty recycling choosing
    rw [if_neg some]
    split
    · exact ⟨rotated.trans ⟨.inr, fun careful => careful.resolve_left empty⟩,
        fun careful => keeps (careful.resolve_left empty)⟩
    · exact ⟨rotated.trans ⟨.inr, fun careful => careful.resolve_left empty⟩,
        fun careful => (keeps (careful.resolve_left empty)).save⟩

end PoolMgr

theorem sound_step_iff (s : PoolMgr) (kept : Kept tables s) (input : Input) :
    Sound tables (Run.take (step tables) s input) ↔ Careful tables s input := by
  cases input with
  | spawnPool pool triggerFrom recycling choosing =>
    refine Iff.trans ?_ (kept.spawnPool_iff triggerFrom recycling choosing).1
    constructor
    · intro sound
      have count := sound.count _ _ _ _ rfl
      exact ⟨sound.creature, sound.go, sound.members _ _ _ _ rfl, count.1, count.2⟩
    · intro fits
      refine ⟨fits.1, fits.2.1, fun _ _ _ _ same => ?_, fun _ _ _ _ same => ?_⟩
      · obtain ⟨rfl, _⟩ := Input.spawnPool.inj same
        exact fits.2.2.1
      · obtain ⟨rfl, _⟩ := Input.spawnPool.inj same
        exact fits.2.2.2
  | despawnPool pool =>
    have fits := (kept.despawnObject pool).kept.fits pool
    exact ⟨fun _ => trivial, fun _ => ⟨fits.1, fits.2.1, nofun, nofun⟩⟩
  | saveQuestsToDB =>
    have fits := kept.save.fits 0
    exact ⟨fun _ => trivial, fun _ => ⟨fits.1, fits.2.1, nofun, nofun⟩⟩

theorem kept_step (s : PoolMgr) (input : Input) (kept : Kept tables s)
    (careful : Careful tables s input) : Kept tables (step tables s input).1 := by
  cases input with
  | spawnPool pool triggerFrom recycling choosing =>
    exact (kept.spawnPool_iff triggerFrom recycling choosing).2 careful
  | despawnPool pool => exact (kept.despawnObject pool).kept
  | saveQuestsToDB => exact kept.save

theorem kept_load : Kept tables (load tables) where
  nodup := nodup_nil
  once := nofun
  countedOnce := fun _ => nodup_nil
  counted := fun _ _ => ⟨nofun, nofun⟩
  spawned := fun _ => rfl
  limit := fun _ => Nat.zero_le _
  creature := fun _ _ => rfl
  go := fun _ _ => rfl

/-- Quest pools rotate their own quests exactly when what they restore or draw is theirs and fits. -/
theorem quest_pools_iff (tables : Tables) (calls : List Call) :
    (∀ t ∈ Run.trace (step tables) (load tables) (calls.flatMap (Call.inputs tables)),
        Sound tables t) ↔
      ∀ t ∈ Run.trace (step tables) (load tables) (calls.flatMap (Call.inputs tables)),
        Careful tables t.before t.input :=
  Run.good_iff (step tables) (Careful tables) (Kept tables) (Sound tables)
    (fun s input kept => sound_step_iff s kept input) kept_step (load tables) _ kept_load

def twoPools : Tables where
  creatureStarters := [(100, 1), (100, 2)]
  goStarters := []
  creatureDistinct := by decide
  goDistinct := by decide
  poolQuest := [(1, 1), (2, 2)]
  poolPositive := by decide
  accepts := fun _ => true
  maxPoolId := 2
  maxLimit := fun pool => if pool = 1 then 1 else 2
  maxLimit_lt := fun pool => by
    split
    · decide
    · decide
  isDaily := fun _ => true
  isWeekly := fun _ => false
  isChild := fun _ => false
  saved := []

/-- The second pool takes the quest of the first as well, and its giver offers it twice. -/
theorem quest_taken_twice :
    ∃ t ∈ Run.trace (step twoPools) (load twoPools)
        ([Call.spawnPool 1 [] (fun _ => 0) (fun _ => 0),
          Call.spawnPool 2 [] (fun _ => 0) (fun _ => 0)].flatMap (Call.inputs twoPools)),
      t.after.creatureQuests.count (100, 1) = 2 ∧ ¬Sound twoPools t := by
  refine ⟨(Run.trace (step twoPools) (load twoPools)
    ([Call.spawnPool 1 [] (fun _ => 0) (fun _ => 0),
      Call.spawnPool 2 [] (fun _ => 0) (fun _ => 0)].flatMap (Call.inputs twoPools))).get
    ⟨1, by decide⟩, get_mem _ _, by decide, fun sound => ?_⟩
  have member := sound.members 2 false (fun _ => 0) (fun _ => 0) rfl (by decide : 1 ∈ _)
  exact absurd member (by decide)

end OpenWoW.QuestPools
