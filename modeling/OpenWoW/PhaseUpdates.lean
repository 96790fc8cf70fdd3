import OpenWoW.ConditionLists

/-! Phase definitions that depend on conditions, and changes of quests. -/
namespace OpenWoW.PhaseUpdates

open List Conditions

structure PhaseDefinition where
  zoneId : UInt32
  entry : UInt32
  phasemask : UInt32
  phaseId : UInt32
  terrainswapmap : UInt32
  flags : UInt8
  deriving DecidableEq, Repr

namespace PhaseDefinition

def isOverwritingExistingPhases (phase : PhaseDefinition) : Bool := phase.flags &&& 0x01 != 0

def isLastDefinition (phase : PhaseDefinition) : Bool := phase.flags &&& 0x02 != 0

def isNegatingPhasemask (phase : PhaseDefinition) : Bool := phase.flags &&& 0x04 != 0

end PhaseDefinition

/-- What the definitions contribute. -/
structure PhaseData where
  phasemaskThroughDefinitions : UInt32
  activePhaseDefinitions : List PhaseDefinition
  deriving DecidableEq, Repr

def PhaseData.addPhaseDefinition (data : PhaseData) (phase : PhaseDefinition) : PhaseData :=
  if phase.isOverwritingExistingPhases then ⟨phase.phasemask, [phase]⟩
  else if phase.isNegatingPhasemask then
    ⟨data.phasemaskThroughDefinitions &&& ~~~phase.phasemask, data.activePhaseDefinitions ++ [phase]⟩
  else
    ⟨data.phasemaskThroughDefinitions ||| phase.phasemask, data.activePhaseDefinitions ++ [phase]⟩

def clientsideChanged : UInt8 := 0x08

def serversideChanged : UInt8 := 0x10

structure PhaseMgr where
  phaseData : PhaseData
  updateFlags : UInt8
  deriving DecidableEq, Repr

namespace PhaseMgr

def resetDefinitions (m : PhaseMgr) : PhaseMgr :=
  if m.phaseData.activePhaseDefinitions.isEmpty then m
  else ⟨⟨0, []⟩, m.updateFlags ||| clientsideChanged ||| serversideChanged⟩

def addActive (m : PhaseMgr) (phase : PhaseDefinition) : PhaseMgr where
  phaseData := m.phaseData.addPhaseDefinition phase
  updateFlags := m.updateFlags ||| (if phase.phasemask ≠ 0 then serversideChanged else 0) |||
    (if phase.phaseId ≠ 0 ∨ phase.terrainswapmap ≠ 0 then clientsideChanged else 0)

/-- The loop of `Recalculate` over the definitions of the player's zone. -/
def recalculateLoop (checkDefinition : PhaseDefinition → Option Bool) :
    List PhaseDefinition → PhaseMgr → Option PhaseMgr
  | [], m => some m
  | phase :: definitions, m => do
    if ← checkDefinition phase then
      if phase.isLastDefinition then some (m.addActive phase)
      else recalculateLoop checkDefinition definitions (m.addActive phase)
    else recalculateLoop checkDefinition definitions m

def recalculate (checkDefinition : PhaseDefinition → Option Bool)
    (definitions : List PhaseDefinition) (m : PhaseMgr) : Option PhaseMgr :=
  recalculateLoop checkDefinition definitions m.resetDefinitions

end PhaseMgr

structure PhaseUpdateData where
  conditionTypeFlags : UInt32
  questId : UInt32

def ConditionType.bit (type : ConditionType) : UInt32 := 1 <<< (UInt32.ofNat (conditionTypes.idxOf type))

/-- `AddQuestUpdate`, on an update without types. -/
def addQuestUpdate (questId : UInt32) : PhaseUpdateData where
  conditionTypeFlags := ConditionType.bit .questRewarded ||| ConditionType.bit .questTaken |||
    ConditionType.bit .questComplete ||| ConditionType.bit .questNone
  questId := questId

def PhaseUpdateData.isConditionRelated (update : PhaseUpdateData) (condition : Condition) : Bool :=
  let flagged := ConditionType.bit condition.conditionType &&& update.conditionTypeFlags != 0
  match condition.conditionType with
  | .questRewarded | .questTaken | .questComplete | .questNone =>
    condition.conditionValue1 == update.questId && flagged
  | _ => flagged

section

variable (conditionsFor : PhaseDefinition → Option (List Condition))

def needsPhaseUpdateWithData (update : PhaseUpdateData) (definitions : List PhaseDefinition) :
    Bool :=
  definitions.any fun phase => (conditionsFor phase).any (·.any update.isConditionRelated)

variable {ι : Type} [DecidableEq ι] (references : References) (sourceInfo : ConditionSourceInfo ι)
  (depth : Nat)

/-- With references followed to a depth. -/
def checkDefinition (w : World ι) (phase : PhaseDefinition) : Option Bool :=
  match conditionsFor phase with
  | none => some true
  | some conditions => w.isObjectMeetToConditions references sourceInfo depth conditions

end

def Concerns (questId : UInt32) (cond : Condition) : Prop :=
  cond.conditionType ∈ [.questRewarded, .questTaken, .questComplete, .questNone] ∧
    cond.conditionValue1 = questId

inductive Reaches (references : References) : List Condition → Condition → Prop where
  | direct {conditions : List Condition} {cond : Condition} (here : cond ∈ conditions)
      (plain : cond.referenceId = 0) : Reaches references conditions cond
  | template {conditions template : List Condition} {cond : Condition} (referring : Condition)
      (here : referring ∈ conditions) (reference : referring.referenceId ≠ 0)
      (found : references referring.referenceId = some template)
      (below : Reaches references template cond) : Reaches references conditions cond

variable {ι : Type} [DecidableEq ι] {w w' : World ι} {references : References}
  {sourceInfo : ConditionSourceInfo ι}

theorem foldlM_same {α β : Type} {f g : β → α → Option β} {l : List α}
    (same : ∀ a ∈ l, ∀ b, f b a = g b a) (b : β) : l.foldlM f b = l.foldlM g b := by
  induction l generalizing b with
  | nil => rfl
  | cons a l ih =>
    rw [foldlM_cons, foldlM_cons, same a mem_cons_self b]
    exact congrArg (g b a >>= ·) (funext (ih fun other there => same other (mem_cons_of_mem a there)))

theorem list_congr (depth : Nat) {conditions : List Condition}
    (agree : ∀ cond, Reaches references conditions cond →
      w'.meets cond sourceInfo = w.meets cond sourceInfo) :
    w'.isObjectMeetToConditionList references sourceInfo depth conditions =
      w.isObjectMeetToConditionList references sourceInfo depth conditions := by
  induction depth generalizing conditions with
  | zero => rfl
  | succ depth ih =>
    refine congrArg _ (foldlM_same (fun cond here store => ?_) [])
    by_cases reference : cond.referenceId ≠ 0
    · rw [if_pos reference, if_pos reference]
      cases found : references cond.referenceId with
      | none => rfl
      | some template =>
        simp only [Option.elim_some]
        rw [ih fun other below => agree other (.template cond here reference found below)]
    · rw [if_neg reference, if_neg reference, agree cond (.direct here (not_not.mp reference))]

theorem recalculateLoop_congr {check check' : PhaseDefinition → Option Bool}
    {definitions : List PhaseDefinition} (same : ∀ phase ∈ definitions, check' phase = check phase)
    (m : PhaseMgr) :
    PhaseMgr.recalculateLoop check' definitions m = PhaseMgr.recalculateLoop check definitions m := by
  induction definitions generalizing m with
  | nil => rfl
  | cons phase definitions ih =>
    have rest := ih fun other there => same other (mem_cons_of_mem phase there)
    simp only [PhaseMgr.recalculateLoop, same phase mem_cons_self, rest]

theorem recalculateLoop_data (check : PhaseDefinition → Option Bool)
    (definitions : List PhaseDefinition) {m m' : PhaseMgr} (same : m'.phaseData = m.phaseData) :
    (PhaseMgr.recalculateLoop check definitions m').map PhaseMgr.phaseData =
      (PhaseMgr.recalculateLoop check definitions m).map PhaseMgr.phaseData := by
  induction definitions generalizing m m' with
  | nil => exact congrArg some same
  | cons phase definitions ih =>
    have added : (m'.addActive phase).phaseData = (m.addActive phase).phaseData :=
      congrArg (·.addPhaseDefinition phase) same
    unfold PhaseMgr.recalculateLoop
    cases check phase with
    | none => rfl
    | some met =>
      cases met with
      | false => exact ih same
      | true =>
        simp only [Option.bind_eq_bind, Option.bind_some, if_true]
        split
        · exact congrArg some added
        · exact ih added

theorem concerns_related {questId : UInt32} {cond : Condition} (concerns : Concerns questId cond) :
    (addQuestUpdate questId).isConditionRelated cond = true := by
  obtain ⟨type, same⟩ := concerns
  simp only [mem_cons, not_mem_nil, or_false] at type
  rcases type with type | type | type | type <;>
    simp only [PhaseUpdateData.isConditionRelated, type, same, addQuestUpdate, BEq.rfl,
      Bool.true_and] <;> decide

/-- Without active definitions there is no mask. -/
def Clean (m : PhaseMgr) : Prop :=
  m.phaseData.activePhaseDefinitions = [] → m.phaseData.phasemaskThroughDefinitions = 0

theorem Clean.resetDefinitions {m : PhaseMgr} (clean : Clean m) :
    m.resetDefinitions.phaseData = ⟨0, []⟩ := by
  unfold PhaseMgr.resetDefinitions
  split
  · rename_i none_
    have empty := isEmpty_iff.mp none_
    rw [← clean empty, ← empty]
  · rfl

theorem addActive_clean (m : PhaseMgr) (phase : PhaseDefinition) : Clean (m.addActive phase) := by
  intro none_
  simp only [PhaseMgr.addActive, PhaseData.addPhaseDefinition] at none_
  split at none_
  · cases none_
  · split at none_ <;> simp at none_

theorem recalculateLoop_clean (check : PhaseDefinition → Option Bool)
    {definitions : List PhaseDefinition} {m after : PhaseMgr} (clean : Clean m)
    (computed : PhaseMgr.recalculateLoop check definitions m = some after) : Clean after := by
  induction definitions generalizing m with
  | nil => exact Option.some.inj computed ▸ clean
  | cons phase definitions ih =>
    obtain ⟨met, -, computed⟩ := Option.bind_eq_some_iff.mp computed
    cases met with
    | false => exact ih clean computed
    | true =>
      simp only [if_true] at computed
      split at computed
      · exact Option.some.inj computed ▸ addActive_clean m phase
      · exact ih (addActive_clean m phase) computed

def Shown (conditionsFor : PhaseDefinition → Option (List Condition)) (references : References)
    (definitions : List PhaseDefinition) (questId : UInt32) : Prop :=
  needsPhaseUpdateWithData conditionsFor (addQuestUpdate questId) definitions = true ∨
    ∀ phase ∈ definitions, ∀ conditions, conditionsFor phase = some conditions →
      ∀ referring ∈ conditions, referring.referenceId ≠ 0 →
      ∀ template, references referring.referenceId = some template →
      ∀ cond, Reaches references template cond → ¬ Concerns questId cond

variable {conditionsFor : PhaseDefinition → Option (List Condition)}
  {definitions : List PhaseDefinition} {questId : UInt32}

section
variable (depth : Nat) (shown : Shown conditionsFor references definitions questId)
  (only : ∀ cond, ¬ Concerns questId cond → w'.meets cond sourceInfo = w.meets cond sourceInfo)
  (quiet : needsPhaseUpdateWithData conditionsFor (addQuestUpdate questId) definitions = false)
include depth shown only quiet

theorem checkDefinition_congr
    (phase : PhaseDefinition) (here : phase ∈ definitions) :
    checkDefinition conditionsFor references sourceInfo depth w' phase =
      checkDefinition conditionsFor references sourceInfo depth w phase := by
  have hidden := shown.resolve_left (by simp [quiet])
  unfold checkDefinition
  cases conditions : conditionsFor phase with
  | none => rfl
  | some list =>
    have agree : ∀ cond, Reaches references list cond →
        w'.meets cond sourceInfo = w.meets cond sourceInfo := by
      intro cond reached
      refine only cond fun concerns => ?_
      cases reached with
      | direct there _ =>
        have needed : needsPhaseUpdateWithData conditionsFor (addQuestUpdate questId) definitions =
            true := by
          refine any_eq_true.mpr ⟨phase, here, ?_⟩
          rw [conditions]
          exact any_eq_true.mpr ⟨cond, there, concerns_related concerns⟩
        cases quiet.symm.trans needed
      | template referring there reference found below =>
        exact hidden phase here list conditions referring there reference _ found cond below concerns
    simp only [World.isObjectMeetToConditions, list_congr depth agree]

/-- A change that alters only answers about a quest leaves the phases as they are unless the
manager looks at them again. -/
theorem no_phase_change_missed
    {before m : PhaseMgr} (clean : Clean before)
    (computed : PhaseMgr.recalculate (checkDefinition conditionsFor references sourceInfo depth w)
      definitions before = some m) :
    (PhaseMgr.recalculate (checkDefinition conditionsFor references sourceInfo depth w')
      definitions m).map PhaseMgr.phaseData = some m.phaseData := by
  have start : before.resetDefinitions.phaseData = ⟨0, []⟩ := clean.resetDefinitions
  have after : Clean m := recalculateLoop_clean _ (fun _ => by rw [start]) computed
  unfold PhaseMgr.recalculate at computed ⊢
  rw [recalculateLoop_congr (checkDefinition_congr depth shown only quiet),
    recalculateLoop_data _ _ (after.resetDefinitions.trans start.symm), computed]
  rfl

end

def rewarded : Condition := (Row.simple (-1) 8 5).condition .questRewarded 0

/-- What a row of a definition with the reference 1 becomes. -/
def firstReferring : Condition := (Row.simple 25 (-1) 0).condition .none 1

def zonePhase : PhaseDefinition := ⟨1519, 1, 2, 0, 0, 0⟩

def afterReward (questId : UInt32) : World Bool :=
  { Spells.besideCreature with questRewardStatus := fun _ other => other == questId }

def templates : References := fun referenceId => if referenceId = 1 then some [rewarded] else none

theorem afterReward_meets {questId : UInt32} {sourceInfo : ConditionSourceInfo Bool}
    (cond : Condition) (other : ¬ Concerns questId cond) :
    (afterReward questId).meets cond sourceInfo = Spells.besideCreature.meets cond sourceInfo := by
  unfold World.meets World.condMeets
  cases type : cond.conditionType
  case questRewarded | questComplete =>
    have apart : cond.conditionValue1 ≠ questId := fun same => other ⟨by simp [type], same⟩
    simp only [afterReward, beq_eq_false_iff_ne.mpr apart]
    rfl
  all_goals rfl

theorem no_phase_change_missed_other :
    (PhaseMgr.recalculate (checkDefinition (fun _ => some [rewarded]) templates
      (.of (some true) none) 1 (afterReward 7)) [zonePhase] ⟨⟨0, []⟩, 0⟩).map PhaseMgr.phaseData =
        some ⟨0, []⟩ := by
  refine @no_phase_change_missed Bool _ Spells.besideCreature _ _ _ _ _ 7 1 (Or.inr ?_)
    afterReward_meets (by decide) ⟨⟨0, []⟩, 0⟩ ⟨⟨0, []⟩, 0⟩ (fun _ => rfl) (by decide)
  intro phase _ conditions is referring there reference
  obtain rfl := Option.some.inj is
  obtain rfl := mem_singleton.mp there
  exact absurd rfl reference

theorem reward_missed :
    (∀ cond, ¬ Concerns 5 cond → (afterReward 5).meets cond (.of (some true) none) =
      Spells.besideCreature.meets cond (.of (some true) none)) ∧
    needsPhaseUpdateWithData (fun _ => some [firstReferring]) (addQuestUpdate 5) [zonePhase] =
      false ∧
    PhaseMgr.recalculate (checkDefinition (fun _ => some [firstReferring]) templates
      (.of (some true) none) 3 Spells.besideCreature) [zonePhase] ⟨⟨0, []⟩, 0⟩ = some ⟨⟨0, []⟩, 0⟩ ∧
    PhaseMgr.recalculate (checkDefinition (fun _ => some [firstReferring]) templates
      (.of (some true) none) 3 (afterReward 5)) [zonePhase] ⟨⟨0, []⟩, 0⟩ =
        some ⟨⟨2, [zonePhase]⟩, serversideChanged⟩ :=
  ⟨afterReward_meets, by decide⟩

end OpenWoW.PhaseUpdates
