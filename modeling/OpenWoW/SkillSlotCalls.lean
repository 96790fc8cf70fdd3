import OpenWoW.SkillSlotSteps

/-! Skills stay in step through all the calls that learning and unlearning make of each other. -/
namespace OpenWoW.Spellbook

variable {rows : SkillRows} {pending : Nat → Prop}

section

variable (tables : Tables) (env : Env) {recur : Call → Player → Option Player}
variable (inner : ∀ call p, Kept pending rows p → Yields (Kept pending rows) (recur call p))

include inner

theorem kept_setSkill (id step newVal maxVal : Nat) {p : Player} (kept : Kept pending rows p) :
    Yields (Kept pending rows) (setSkill tables env recur id step newVal maxVal p) := by
  apply Yields.ite
  · intro zero
    exact .some kept
  · intro positive
    split
    · rename_i data has
      apply Yields.ite
      · intro raised
        exact inner _ _ (kept.touch has _ rfl)
      · intro removed
        have dropped := Yields.foldlM (tables.skillLineAbilities.filter (·.skillId = id))
          (fun ability _ p => inner (.removeSpell
            (tables.getFirstSpellInChain ability.spellId) false true) p)
          (p.dropSkill id data) (kept.dropSkill has)
        apply dropped.bind
        intro p' kept'
        apply Yields.some
        unfold Player.clearProfessionLine
        split
        · exact kept'.of_same rfl rfl
        split
        · exact kept'.of_same rfl rfl
        · exact kept'
    · rename_i missing
      apply Yields.ite
      · intro zero
        exact .some kept
      · intro added
        split
        · rename_i pos line free known
          apply inner
          exact (kept.putSkill positive missing free line step newVal maxVal).applySkillAuras env id
        · exact .some kept

theorem kept_learnSkillRewardedSpells (skill value : Nat) {p : Player}
    (kept : Kept pending rows p) :
    Yields (Kept pending rows) (learnSkillRewardedSpells tables env recur skill value p) := by
  apply Yields.foldlM _ _ p kept
  intro ability _ p kept
  apply Yields.ite
  · intro skipped
    exact .some kept
  · intro rewarded
    apply Yields.ite
    · intro low
      exact inner _ p kept
    · intro high
      apply Yields.ite
      · intro loading
        exact inner _ p kept
      · intro inWorld
        exact inner _ p kept

theorem kept_runCalls (calls : List Call) (p : Player) (kept : Kept pending rows p) :
    Yields (Kept pending rows) (runCalls recur calls p) :=
  Yields.foldlM calls (fun call _ p => inner call p) p kept

variable (info : SpellInfo) (spell : Nat) (active learning dependent disabled learnLowRank : Bool)
  (entry : PlayerSpell) (p : Player)

theorem kept_addDependentSkills {p : Player} (kept : Kept pending rows p) :
    Yields (Kept pending rows) (addDependentSkills tables env recur spell p) := by
  unfold addDependentSkills
  split
  · exact inner _ p kept
  apply Yields.foldlM _ _ p kept
  intro ability _ p kept
  split
  · exact .some kept
  next line _ =>
  apply Yields.ite
  · intro known
    exact .some kept
  · intro unknown
    apply Yields.ite
    · intro learned
      split
      · exact inner _ p kept
      · exact inner _ p kept
      · exact inner _ p kept
      · exact .some kept
    · intro other
      exact .some kept

theorem kept_learnDependentSpells (kept : Kept pending rows p) :
    Yields (Kept pending rows) (learnDependentSpells tables env recur spell p) := by
  apply Yields.foldlM _ _ p kept
  intro node _ p kept
  apply Yields.ite
  · intro automatic
    exact .some kept
  · intro taught
    apply Yields.ite
    · intro quiet
      exact inner _ p kept
    · intro shown
      exact inner _ p kept

theorem kept_castPassive {p : Player}
    (kept : Kept pending rows p) :
    Yields (Kept pending rows) (castPassive env recur info spell p) :=
  .ite (fun _ => kept_runCalls inner _ p kept) (fun _ => .some kept)

theorem kept_finishAdd {p : Player} (kept : Kept pending rows p) :
    Yields (Kept pending rows) (finishAdd tables env recur info spell p) := by
  apply Yields.ite
  · intro skillStep
    exact kept_runCalls inner _ p kept
  · intro other
    apply (kept_castPassive env inner info spell kept).bind
    intro p kept
    have spent : Kept pending rows (p.spendProfession info) := by
      unfold Player.spendProfession
      split
      · exact kept.of_same rfl rfl
      · exact kept
    exact (kept_addDependentSkills tables env inner spell spent).bind
      (kept_learnDependentSpells tables env inner spell)

theorem kept_learnPrevRank {p : Player}
    (kept : Kept pending rows p) :
    Yields (Kept pending rows) (learnPrevRank tables env recur spell active disabled p) := by
  apply Yields.ite
  · intro first
    exact .some kept
  · intro later
    apply Yields.ite
    · intro quiet
      exact inner _ p kept
    · intro shown
      exact inner _ p kept

omit inner in
theorem kept_insertSpell (state : PlayerSpellState)
    (active dependent disabled : Bool) {p : Player} (kept : Kept pending rows p) :
    Kept pending rows (insertSpell tables info spell state active dependent disabled p) := by
  unfold insertSpell
  split
  · exact kept.of_same rfl rfl
  · exact kept.of_same rfl rfl

/-- The player in what `addSpell` makes of a known entry. -/
def Known.player : Known → Player
  | .done _ p | .enabled _ p | .missing _ _ p => p

omit inner in
theorem skills_updateKnown (loading dependentSet : Bool)
    (entry : PlayerSpell) (p : Player) :
    (updateKnown spell active disabled loading dependentSet entry p).player.skillSlots =
        p.skillSlots ∧
      (updateKnown spell active disabled loading dependentSet entry p).player.skillStatus =
        p.skillStatus := by
  unfold updateKnown
  split
  · exact ⟨rfl, rfl⟩
  split
  · split <;> exact ⟨rfl, rfl⟩
  · split <;> exact ⟨rfl, rfl⟩

omit inner in
theorem skills_removeTemporarySpell :
    (p.removeTemporarySpell spell).skillSlots = p.skillSlots ∧
      (p.removeTemporarySpell spell).skillStatus = p.skillStatus := by
  unfold Player.removeTemporarySpell
  split
  · exact ⟨rfl, rfl⟩
  · split <;> exact ⟨rfl, rfl⟩

omit inner in
theorem skills_checkKnown :
    (checkKnown tables env info spell active learning dependent disabled p).player.skillSlots =
        p.skillSlots ∧
      (checkKnown tables env info spell active learning dependent disabled p).player.skillStatus =
        p.skillStatus := by
  unfold checkKnown
  dsimp only
  split
  · exact ⟨rfl, rfl⟩
  split
  · exact skills_removeTemporarySpell spell p
  split
  · simp only [Known.player]
    split <;> exact ⟨rfl, rfl⟩
  split
  · exact skills_updateKnown ..
  · exact skills_updateKnown ..

section
variable {p : Player} (kept : Kept pending rows p)
include kept

theorem kept_addSpell :
    Yields (Kept pending rows)
      (addSpell tables env recur spell active learning dependent disabled p) := by
  unfold addSpell
  split
  · exact .some kept
  next info _ =>
  apply Yields.ite
  · intro broken
    exact .some kept
  · intro valid
    have same := skills_checkKnown tables env info spell active learning dependent disabled p
    have kept' := kept.of_same same.1 same.2
    generalize checkKnown tables env info spell active learning dependent disabled p = known
      at kept'
    cases known with
    | done cast p =>
      exact .ite (fun passive => kept_castPassive env inner info spell kept')
        (fun plain => .some kept')
    | enabled active p => exact kept_finishAdd tables env inner info spell kept'
    | missing state active p =>
      apply (kept_learnPrevRank tables env inner spell active disabled kept').bind
      intro p kept
      have put := kept_insertSpell tables info spell state active dependent disabled kept
      exact .ite (fun hidden => .some put)
        (fun shown => kept_finishAdd tables env inner info spell put)

theorem kept_learnDisabled :
    Yields (Kept pending rows) (learnDisabled recur spell p) :=
  .ite (fun _ => inner _ p kept) (fun _ => .some kept)

theorem kept_learnSpell :
    Yields (Kept pending rows) (learnSpell tables recur spell dependent p) := by
  apply Yields.ite
  · intro disabled
    apply (inner _ p kept).bind
    intro p kept
    have next : Yields (Kept pending rows) (learnNextRank tables recur spell p) :=
      .ite (fun last => .some kept) (fun higher => kept_learnDisabled inner _ kept)
    apply next.bind
    apply Yields.foldlM
    intro other _ p kept
    exact kept_learnDisabled inner other kept
  · intro enabled
    exact inner _ p kept

theorem kept_removeDependentSkills :
    Yields (Kept pending rows) (removeDependentSkills tables env recur spell p) := by
  unfold removeDependentSkills
  split
  · apply Yields.ite
    · intro first
      exact inner _ p kept
    · intro later
      split
      · exact inner _ p kept
      · exact inner _ p kept
  · apply Yields.foldlM _ _ p kept
    intro ability _ p kept
    split
    · exact .some kept
    next line _ =>
    apply Yields.ite
    · intro learned
      exact .ite (fun profession => .some kept) (fun other => inner _ p kept)
    · intro other
      exact .some kept

end

omit inner in
theorem kept_unlearn (disabled : Bool) (p : Player)
    (kept : Kept pending rows p) : Kept pending rows (unlearn spell entry disabled p) := by
  unfold unlearn
  split
  · exact kept.of_same rfl rfl
  split
  · exact kept.of_same rfl rfl
  · exact kept.of_same rfl rfl

theorem kept_activatePrevRank
    (kept : Kept pending rows p) :
    Yields (Kept pending rows)
      (activatePrevRank tables recur spell active dependent learnLowRank p) := by
  unfold activatePrevRank
  dsimp only
  split
  · apply Yields.ite
    · intro ranked
      exact .ite (fun asleep => inner _ _ (kept.of_same rfl rfl))
        (fun awake => .some (kept.of_same rfl rfl))
    · intro other
      exact .some kept
  · exact .some kept

theorem kept_finishRemove (kept : Kept pending rows p) :
    Yields (Kept pending rows)
      (finishRemove tables env recur spell disabled learnLowRank entry p) := by
  have unlearned := kept_unlearn spell entry disabled p kept
  apply (kept_runCalls inner _ _ unlearned).bind
  intro p kept
  have regained : Kept pending rows
      (p.regainProfession (tables.spellInfo spell) env.maxPrimaryTradeSkill) := by
    unfold Player.regainProfession
    split
    · exact kept.of_same rfl rfl
    · exact kept
  apply (kept_removeDependentSkills tables env inner spell regained).bind
  intro p kept
  have dependents := Yields.foldlM (tables.spellLearnSpells spell)
    (fun node _ p => inner (.removeSpell node.spell disabled true) p) p kept
  exact dependents.bind
    (kept_activatePrevRank tables inner spell entry.active entry.dependent learnLowRank)

theorem kept_removeSpell {p : Player}
    (kept : Kept pending rows p) :
    Yields (Kept pending rows) (removeSpell tables env recur spell disabled learnLowRank p) := by
  unfold removeSpell
  split
  · exact .some kept
  apply Yields.ite
  · intro gone
    exact .some kept
  · intro here
    have next : Yields (Kept pending rows) (removeNextRank tables recur spell disabled p) :=
      .ite (fun higher => inner _ p kept) (fun last => .some kept)
    apply next.bind
    intro p kept
    have required := Yields.foldlM (tables.spellsRequiringSpell spell)
      (fun other _ p => inner (.removeSpell other disabled true) p) p kept
    apply required.bind
    intro p kept
    split
    · exact .some kept
    · exact kept_finishRemove tables env inner spell disabled learnLowRank _ p kept

theorem kept_perform (call : Call) {p : Player} (kept : Kept pending rows p) :
    Yields (Kept pending rows) (perform tables env recur call p) := by
  cases call with
  | setSkill id step newVal maxVal => exact kept_setSkill tables env inner _ _ _ _ kept
  | modifySkillBonus skill val talent => exact .some (kept.modifySkillBonus skill val talent)
  | learnSkillRewardedSpells skill value =>
    exact kept_learnSkillRewardedSpells tables env inner skill value kept
  | addSpell spell active learning dependent disabled =>
    exact kept_addSpell tables env inner spell active learning dependent disabled kept
  | learnSpell spell dependent => exact kept_learnSpell tables inner spell dependent kept
  | removeSpell spell disabled learnLowRank =>
    exact kept_removeSpell tables env inner spell disabled learnLowRank kept

end

theorem kept_exec (tables : Tables) (env : Env) (depth : Nat) (call : Call) (p : Player)
    (kept : Kept pending rows p) : Yields (Kept pending rows) (exec tables env depth call p) := by
  induction depth generalizing call p with
  | zero => exact .none
  | succ depth ih => exact kept_perform tables env ih call kept

end OpenWoW.Spellbook
