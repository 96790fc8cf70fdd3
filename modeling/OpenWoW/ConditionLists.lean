import OpenWoW.SpellTargets

/-! Lists of conditions with references between them, and what it means to meet one. -/
namespace OpenWoW.Conditions

open List

open Grouping

/-- A row of the table `conditions`. -/
structure Row where
  sourceTypeOrReferenceId : Int
  elseGroup : Nat
  conditionTypeOrReference : Int
  conditionTarget : Nat
  conditionValue1 : UInt32
  conditionValue2 : UInt32
  conditionValue3 : UInt32
  negativeCondition : Bool
  scriptId : Nat
  deriving DecidableEq, Repr

/-- The `ConditionTypes` below `CONDITION_MAX`, by their numbers. -/
def conditionTypes : List ConditionType :=
  [.none, .aura, .item, .itemEquipped, .zoneId, .reputationRank, .team, .skill, .questRewarded,
    .questTaken, .drunkenState, .worldState, .activeEvent, .instanceInfo, .questNone, .unitClass,
    .race, .achievement, .title, .spawnMask, .gender, .unitState, .mapId, .areaId, .unused24, .spell,
    .phaseMask, .level, .questComplete, .nearCreature, .nearGameObject, .objectEntry, .typeMask,
    .relationTo, .reactionTo, .distanceTo, .alive, .hpVal, .hpPct]

/-- The `ConditionSourceType`s below `CONDITION_SOURCE_TYPE_MAX`, by their numbers. -/
def conditionSourceTypes : List ConditionSourceType :=
  [.none, .creatureLootTemplate, .disenchantLootTemplate, .fishingLootTemplate,
    .gameObjectLootTemplate, .itemLootTemplate, .mailLootTemplate, .millingLootTemplate,
    .pickpocketingLootTemplate, .prospectingLootTemplate, .referenceLootTemplate,
    .skinningLootTemplate, .spellLootTemplate, .spellImplicitTarget, .gossipMenu, .gossipMenuOption,
    .creatureTemplateVehicle, .spell, .spellClickEvent, .questAccept, .questShowMark, .vehicleSpell,
    .smartEvent, .npcVendor, .spellProc, .phaseDefinition]

def Row.template (row : Row) : Option Nat :=
  if row.sourceTypeOrReferenceId < 0 then some row.sourceTypeOrReferenceId.natAbs else none

def Row.sourceType (row : Row) : ConditionSourceType :=
  if row.sourceTypeOrReferenceId < 0 then .none
  else (conditionSourceTypes[row.sourceTypeOrReferenceId.toNat]?).getD .none

def Row.condition (row : Row) (conditionType : ConditionType) (referenceId : Nat) : Condition where
  sourceType := row.sourceType
  elseGroup := row.elseGroup
  conditionType := conditionType
  conditionValue1 := row.conditionValue1
  conditionValue2 := row.conditionValue2
  conditionValue3 := row.conditionValue3
  referenceId := referenceId
  scriptId := row.scriptId
  conditionTarget := row.conditionTarget
  negativeCondition := row.negativeCondition

namespace World

variable {ι : Type} (w : World ι)

/-- A row in the loop of `LoadConditions`, up to where it goes into a store. -/
def loadRow (row : Row) : Option Condition :=
  if row.conditionTypeOrReference < 0 then
    if row.conditionTypeOrReference = row.sourceTypeOrReferenceId then none
    else some (row.condition .none row.conditionTypeOrReference.natAbs)
  else
    match conditionTypes[row.conditionTypeOrReference.toNat]? with
    | none => none
    | some conditionType =>
      if w.isConditionTypeValid (row.condition conditionType 0) then
        some (row.condition conditionType 0)
      else none

/-- `ConditionReferenceStore` after `LoadConditions`. -/
def referenceStore (rows : List Row) : References := fun referenceId =>
  match rows.filterMap fun row => if row.template = some referenceId then w.loadRow row else none with
  | [] => none
  | conditions => some conditions

/-- A list of conditions from rows. What stands outside the reference store has also passed the checks
of its source, so the lists of the stores are among these. -/
def FromRows (rows : List Row) (conditions : List Condition) : Prop :=
  ∀ cond ∈ conditions, ∃ row ∈ rows, w.loadRow row = some cond

def Usable (cond : Condition) : Prop := cond.referenceId ≠ 0 ∨ w.isConditionTypeValid cond = true

end World

section

variable {ι : Type} {w : World ι}

theorem loadRow_usable {row : Row} {cond : Condition} (loaded : w.loadRow row = some cond) :
    w.Usable cond := by
  unfold World.loadRow at loaded
  split at loaded
  · rename_i reference
    split at loaded
    · cases loaded
    obtain rfl := Option.some.inj loaded
    left
    show row.conditionTypeOrReference.natAbs ≠ 0
    omega
  · split at loaded
    · cases loaded
    · split at loaded
      · rename_i valid
        obtain rfl := Option.some.inj loaded
        exact Or.inr valid
      · cases loaded

theorem referenceStore_usable {rows : List Row} {referenceId : Nat} {conditions : List Condition}
    (found : w.referenceStore rows referenceId = some conditions) :
    ∀ cond ∈ conditions, w.Usable cond := by
  intro cond there
  unfold World.referenceStore at found
  split at found
  · cases found
  rw [← Option.some.inj found, mem_filterMap] at there
  obtain ⟨row, _, loaded⟩ := there
  split at loaded
  · exact loadRow_usable loaded
  · cases loaded

end

theorem common_depth {α : Type} {reaches : Nat → α → Prop}
    (mono : ∀ depth more a, depth ≤ more → reaches depth a → reaches more a) {members : List α}
    (each : ∀ a ∈ members, ∃ depth, reaches depth a) : ∃ depth, ∀ a ∈ members, reaches depth a := by
  induction members with
  | nil => exact ⟨0, fun a none_ => nomatch none_⟩
  | cons first rest ih =>
    obtain ⟨depth, reached⟩ := each first mem_cons_self
    obtain ⟨more, others⟩ := ih fun a there => each a (mem_cons_of_mem _ there)
    refine ⟨max depth more, fun a there => ?_⟩
    rcases mem_cons.mp there with rfl | later
    · exact mono _ _ _ (Nat.le_max_left _ _) reached
    · exact mono _ _ _ (Nat.le_max_right _ _) (others a later)

section

variable {ι : Type} [DecidableEq ι] (w : World ι) (references : References)
  (sourceInfo : ConditionSourceInfo ι)

/-- A list is met: there is an else group in it all of whose conditions hold, a reference when the list
of its template is met. A template without a list holds if `missing`. -/
inductive Met (missing : Prop) : List Condition → Prop where
  | elseGroup {conditions : List Condition} (first : Condition) (here : first ∈ conditions)
      (plain : ∀ cond ∈ conditions, cond.elseGroup = first.elseGroup → cond.referenceId = 0 →
        w.meets cond sourceInfo = some true)
      (absent : ∀ cond ∈ conditions, cond.elseGroup = first.elseGroup → cond.referenceId ≠ 0 →
        references cond.referenceId = none → missing)
      (templates : ∀ cond ∈ conditions, cond.elseGroup = first.elseGroup → cond.referenceId ≠ 0 →
        ∀ template, references cond.referenceId = some template → Met missing template) :
      Met missing conditions

def Holds (missing : Prop) (cond : Condition) : Prop :=
  (cond.referenceId = 0 → w.meets cond sourceInfo = some true) ∧
    (cond.referenceId ≠ 0 → (references cond.referenceId = none → missing) ∧
      ∀ template, references cond.referenceId = some template →
        Met w references sourceInfo missing template)

/-- References come to an end: each one that stands behind no condition of its else group that fails is
to a template whose own references do. -/
inductive Resolved : List Condition → Prop where
  | of {conditions : List Condition}
      (below : ∀ before cond after, conditions = before ++ cond :: after →
        (∀ other ∈ before, other.elseGroup = cond.elseGroup →
          Holds w references sourceInfo True other) →
        cond.referenceId ≠ 0 → ∀ template, references cond.referenceId = some template →
        Resolved template) :
      Resolved conditions

/-- Evaluation ends with an answer, at some depth of references. -/
def Evaluates (conditions : List Condition) (answer : Bool) : Prop :=
  ∃ depth, w.isObjectMeetToConditions references sourceInfo depth conditions = some answer

/-- In whatever order, a list evaluates to whether it is met. -/
def MeansOrOfAnds (conditions : List Condition) : Prop :=
  ∀ order, order.Perm conditions → ∃ answer, Evaluates w references sourceInfo order answer ∧
    (answer = true ↔ Met w references sourceInfo False conditions)

variable {w references sourceInfo}

variable {conditions : List Condition}

theorem met_iff {missing : Prop} :
    Met w references sourceInfo missing conditions ↔
      ∃ first ∈ conditions, ∀ cond ∈ conditions, cond.elseGroup = first.elseGroup →
        Holds w references sourceInfo missing cond := by
  constructor
  · rintro ⟨first, here, plain, absent, templates⟩
    exact ⟨first, here, fun cond there same => ⟨plain cond there same, fun reference =>
      ⟨absent cond there same reference, templates cond there same reference⟩⟩⟩
  · rintro ⟨first, here, all⟩
    exact .elseGroup first here (fun cond there same => (all cond there same).1)
      (fun cond there same reference => ((all cond there same).2 reference).1)
      (fun cond there same reference => ((all cond there same).2 reference).2)

theorem Met.perm {missing : Prop} {order : List Condition} (perm : order.Perm conditions) :
    Met w references sourceInfo missing order ↔ Met w references sourceInfo missing conditions := by
  rw [met_iff, met_iff]
  simp only [perm.mem_iff]

theorem Met.mono (met : Met w references sourceInfo False conditions) :
    Met w references sourceInfo True conditions := by
  induction met with
  | elseGroup first here plain absent templates ih =>
    exact .elseGroup first here plain (fun _ _ _ _ _ => trivial) ih

/-- What `IsObjectMeetToConditionList` finds out about one condition. -/
def World.verdict (w : World ι) (references : References) (sourceInfo : ConditionSourceInfo ι)
    (depth : Nat) (cond : Condition) : Option Bool :=
  if cond.referenceId ≠ 0 then
    (references cond.referenceId).elim (some true)
      (w.isObjectMeetToConditionList references sourceInfo depth)
  else w.meets cond sourceInfo

theorem list_eq_fold (depth : Nat) (usable : ∀ cond ∈ conditions, w.Usable cond) :
    w.isObjectMeetToConditionList references sourceInfo (depth + 1) conditions =
      (conditions.foldlM (fun elseGroupStore cond => narrow verdicts elseGroupStore cond.elseGroup
        (w.verdict references sourceInfo depth cond)) []).map
      fun elseGroupStore => elseGroupStore.any fun entry => entry.2 := by
  have folds : ∀ store : List (Nat × Bool), conditions.foldlM (fun elseGroupStore cond =>
      if cond.isLoaded then
        narrow verdicts elseGroupStore cond.elseGroup (w.verdict references sourceInfo depth cond)
      else some elseGroupStore) store =
      conditions.foldlM (fun elseGroupStore cond => narrow verdicts elseGroupStore cond.elseGroup
        (w.verdict references sourceInfo depth cond)) store := by
    intro store
    induction conditions generalizing store with
    | nil => rfl
    | cons cond rest ih =>
      rw [foldlM_cons, foldlM_cons, if_pos (loaded_isLoaded (usable cond (by simp)))]
      cases narrow verdicts store cond.elseGroup (w.verdict references sourceInfo depth cond) with
      | none => rfl
      | some next => exact ih (fun other there => usable other (mem_cons_of_mem _ there)) next
  exact congrArg _ (folds [])

theorem verdicts_exact : Exact verdicts id where
  toTest := verdicts_test
  full := fun b failed => by simpa [verdicts] using failed

/-- A list has the same answers at one depth as at another. -/
def Deepens (w : World ι) (references : References) (sourceInfo : ConditionSourceInfo ι)
    (depth more : Nat) : Prop :=
  ∀ conditions, (∀ cond ∈ conditions, w.Usable cond) → ∀ answer,
    w.isObjectMeetToConditionList references sourceInfo depth conditions = some answer →
    w.isObjectMeetToConditionList references sourceInfo more conditions = some answer

section

variable (templates : ∀ referenceId template, references referenceId = some template →
  ∀ cond ∈ template, w.Usable cond)

include templates

theorem verdict_deepens {depth more : Nat} (deepens : Deepens w references sourceInfo depth more)
    {cond : Condition} {b : Bool} (known : w.verdict references sourceInfo depth cond = some b) :
    w.verdict references sourceInfo more cond = some b := by
  unfold World.verdict at known ⊢
  split at known
  · rename_i reference
    rw [if_pos reference]
    cases found : references cond.referenceId with
    | none => rwa [found] at known
    | some template =>
      rw [found] at known
      exact deepens template (templates _ template found) b known
  · rename_i plain
    rw [if_neg plain]
    exact known

theorem list_deepens {depth more : Nat} (deeper : depth ≤ more) :
    Deepens w references sourceInfo depth more := by
  induction depth generalizing more with
  | zero =>
    intro conditions _ answer ends
    cases ends
  | succ depth ih =>
    intro conditions usable answer ends
    obtain ⟨more, rfl⟩ : ∃ less, more = less + 1 := ⟨more - 1, by omega⟩
    rw [list_eq_fold _ usable] at ends ⊢
    obtain ⟨store, folded, eq⟩ := Option.map_eq_some_iff.mp ends
    have keeps : ∀ cond ∈ conditions, ∀ b, w.verdict references sourceInfo depth cond = some b →
        w.verdict references sourceInfo more cond = some b :=
      fun cond _ b known =>
        verdict_deepens templates (ih (Nat.le_of_succ_le_succ deeper)) known
    rw [foldlM_narrow_mono keeps folded, Option.map_some, eq]

theorem verdict_holds {depth : Nat} (sound : ∀ conditions, (∀ cond ∈ conditions, w.Usable cond) →
      ∀ answer, w.isObjectMeetToConditionList references sourceInfo depth conditions = some answer →
      (answer = true ↔ Met w references sourceInfo True conditions)) {cond : Condition} {b : Bool}
    (known : w.verdict references sourceInfo depth cond = some b) :
    b = true ↔ Holds w references sourceInfo True cond := by
  unfold World.verdict at known
  unfold Holds
  split at known
  · rename_i reference
    simp only [reference, not_false_eq_true, forall_const, ne_eq, implies_true, true_and,
      IsEmpty.forall_iff]
    cases found : references cond.referenceId with
    | none =>
      rw [found] at known
      simp [← Option.some.inj known]
    | some template =>
      rw [found] at known
      rw [sound template (templates _ template found) b known]
      simp
  · rename_i plain
    have zero := not_not.mp plain
    simp [zero, known]

open Classical in
theorem list_sound {depth : Nat} (conditions : List Condition)
    (usable : ∀ cond ∈ conditions, w.Usable cond) (answer : Bool)
    (ends : w.isObjectMeetToConditionList references sourceInfo depth conditions = some answer) :
    answer = true ↔ Met w references sourceInfo True conditions := by
  induction depth generalizing conditions answer with
  | zero => cases ends
  | succ depth ih =>
    rw [list_eq_fold _ usable] at ends
    obtain ⟨store, folded, rfl⟩ := Option.map_eq_some_iff.mp ends
    have agrees : ∀ cond ∈ conditions, ∀ b, w.verdict references sourceInfo depth cond = some b →
        b = decide (Holds w references sourceInfo True cond) := by
      intro cond _ b known
      rw [Bool.eq_iff_iff, verdict_holds templates ih known, decide_eq_true_iff]
    have gathered := (gather_lazy verdicts_exact _ agrees).1 store folded
    rw [any_eq_true, met_iff]
    refine (gathered.any_passes verdicts_test).trans ?_
    simp

open Classical in
theorem list_ends (depth : Nat) {conditions : List Condition}
    (usable : ∀ cond ∈ conditions, w.Usable cond) :
    (w.isObjectMeetToConditionList references sourceInfo (depth + 1) conditions).isSome ↔
      ∀ before cond after, conditions = before ++ cond :: after →
        (∀ other ∈ before, other.elseGroup = cond.elseGroup →
          Holds w references sourceInfo True other) →
        (w.verdict references sourceInfo depth cond).isSome := by
  have agrees : ∀ cond ∈ conditions, ∀ b, w.verdict references sourceInfo depth cond = some b →
      b = decide (Holds w references sourceInfo True cond) := by
    intro cond _ b known
    rw [Bool.eq_iff_iff, verdict_holds templates (list_sound templates) known, decide_eq_true_iff]
  rw [list_eq_fold _ usable, Option.isSome_map, (gather_lazy verdicts_exact _ agrees).2]
  simp [Asked]

/-- References come to an end exactly when evaluation does. -/
theorem resolved_iff {conditions : List Condition} (usable : ∀ cond ∈ conditions, w.Usable cond) :
    Resolved w references sourceInfo conditions ↔
      ∃ depth, (w.isObjectMeetToConditionList references sourceInfo depth conditions).isSome := by
  constructor
  · intro resolved
    induction resolved with
    | @of conditions below ih =>
      have each : ∀ cond ∈ conditions, ∃ depth,
          (∃ before after, conditions = before ++ cond :: after ∧
            ∀ other ∈ before, other.elseGroup = cond.elseGroup →
              Holds w references sourceInfo True other) →
          (w.verdict references sourceInfo depth cond).isSome := by
        intro cond there
        unfold World.verdict
        by_cases reference : cond.referenceId ≠ 0
        · cases found : references cond.referenceId with
          | none => exact ⟨0, fun _ => by rw [if_pos reference]; rfl⟩
          | some template =>
            by_cases asked : ∃ before after, conditions = before ++ cond :: after ∧
                ∀ other ∈ before, other.elseGroup = cond.elseGroup →
                  Holds w references sourceInfo True other
            · obtain ⟨before, after, split, hold⟩ := asked
              obtain ⟨depth, ends⟩ := ih before cond after split hold reference template found
                (templates _ template found)
              exact ⟨depth, fun _ => by rw [if_pos reference]; exact ends⟩
            · exact ⟨0, fun is => absurd is asked⟩
        · refine ⟨0, fun _ => ?_⟩
          rw [if_neg reference]
          exact meets_total ((usable cond there).resolve_left reference) sourceInfo
      obtain ⟨depth, all⟩ := common_depth (by
        intro depth more cond deeper reached asked
        obtain ⟨b, known⟩ := Option.isSome_iff_exists.mp (reached asked)
        rw [verdict_deepens templates (list_deepens templates deeper) known]
        rfl) each
      refine ⟨depth + 1, (list_ends templates depth usable).mpr ?_⟩
      intro before cond after split hold
      exact all cond (by rw [split]; simp) ⟨before, after, split, hold⟩
  · rintro ⟨depth, ends⟩
    induction depth generalizing conditions with
    | zero => cases ends
    | succ depth ih =>
      refine .of fun before cond after split hold reference template found => ?_
      have known := (list_ends templates depth usable).mp ends before cond after split hold
      unfold World.verdict at known
      rw [if_pos reference, found] at known
      exact ih (templates _ template found) known

end

/-- A non-empty list of loaded conditions means an OR of ANDs exactly when the references in it come to
an end and templates without a list make no difference. -/
theorem means_or_of_ands_iff (w : World ι) (rows : List Row) (sourceInfo : ConditionSourceInfo ι)
    {conditions : List Condition} (nonempty : conditions ≠ [])
    (fromRows : w.FromRows rows conditions) :
    MeansOrOfAnds w (w.referenceStore rows) sourceInfo conditions ↔
      (∀ cond ∈ conditions, cond.referenceId ≠ 0 → ∀ template,
        w.referenceStore rows cond.referenceId = some template →
        Resolved w (w.referenceStore rows) sourceInfo template) ∧
      (Met w (w.referenceStore rows) sourceInfo True conditions →
        Met w (w.referenceStore rows) sourceInfo False conditions) := by
  have templates : ∀ referenceId template, w.referenceStore rows referenceId = some template →
      ∀ cond ∈ template, w.Usable cond := fun _ _ found => referenceStore_usable found
  have usable : ∀ cond ∈ conditions, w.Usable cond := by
    intro cond there
    obtain ⟨row, _, loaded⟩ := fromRows cond there
    exact loadRow_usable loaded
  have evaluates : ∀ order : List Condition, order.Perm conditions → ∀ answer,
      Evaluates w (w.referenceStore rows) sourceInfo order answer ↔ ∃ depth,
        w.isObjectMeetToConditionList (w.referenceStore rows) sourceInfo depth order =
          some answer := by
    intro order perm answer
    have some_ : order.isEmpty = false := by
      rw [isEmpty_eq_false_iff]
      rintro rfl
      exact nonempty perm.symm.eq_nil
    unfold Evaluates World.isObjectMeetToConditions
    simp [some_]
  constructor
  · intro means
    constructor
    · intro cond there reference template found
      -- the reference is asked for when it stands first
      have perm := (perm_cons_erase there).symm
      obtain ⟨answer, ends, _⟩ := means _ perm
      obtain ⟨depth, ends⟩ := (evaluates _ perm answer).mp ends
      cases depth with
      | zero => cases ends
      | succ depth =>
        have known := (list_ends templates depth fun other there =>
          usable other (perm.mem_iff.mp there)).mp (Option.isSome_of_eq_some ends) [] cond _ rfl
            (fun _ none_ => by cases none_)
        unfold World.verdict at known
        rw [if_pos reference, found] at known
        exact (resolved_iff templates (templates _ template found)).mpr ⟨depth, known⟩
    · intro met
      obtain ⟨answer, ends, right⟩ := means conditions (.refl _)
      obtain ⟨depth, ends⟩ := (evaluates _ (.refl _) answer).mp ends
      exact right.mp ((list_sound templates conditions usable answer ends).mpr met)
  · rintro ⟨resolved, same⟩ order perm
    have usable' : ∀ cond ∈ order, w.Usable cond := fun cond there => usable cond (perm.mem_iff.mp there)
    have ends : Resolved w (w.referenceStore rows) sourceInfo order :=
      .of fun before cond after split _ reference template found =>
        resolved cond (perm.mem_iff.mp (by rw [split]; simp)) reference template found
    obtain ⟨depth, isSome⟩ := (resolved_iff templates usable').mp ends
    obtain ⟨answer, answers⟩ := Option.isSome_iff_exists.mp isSome
    refine ⟨answer, (evaluates order perm answer).mpr ⟨depth, answers⟩, ?_⟩
    rw [list_sound templates order usable' answer answers, Met.perm perm]
    exact ⟨same, Met.mono⟩

end

def Row.simple (sourceTypeOrReferenceId conditionTypeOrReference : Int) (value : UInt32) : Row where
  sourceTypeOrReferenceId := sourceTypeOrReferenceId
  elseGroup := 0
  conditionTypeOrReference := conditionTypeOrReference
  conditionTarget := 0
  conditionValue1 := value
  conditionValue2 := 0
  conditionValue3 := 0
  negativeCondition := false
  scriptId := 0

/-- A spell's targets are asked for the template 1, which asks for players of the alliance. -/
def allianceRows : List Row := [.simple (-1) 6 alliance, .simple 13 (-1) 0]

/-- The templates 1 and 2 refer to each other. -/
def cyclicRows : List Row := [.simple (-1) (-2) 0, .simple (-2) (-1) 0, .simple 13 (-1) 0]

def firstTemplate : Condition := (Row.simple 13 (-1) 0).condition .none 1

theorem means_or_of_ands_iff_alliance :
    MeansOrOfAnds Spells.besideCreature (Spells.besideCreature.referenceStore allianceRows)
      (.of (some true) none) [firstTemplate] := by
  have template : Spells.besideCreature.referenceStore allianceRows 1 =
      some [(Row.simple (-1) 6 alliance).condition .team 0] := by decide
  have fromRows : Spells.besideCreature.FromRows allianceRows [firstTemplate] := by
    intro cond there
    rw [mem_singleton.mp there]
    exact ⟨.simple 13 (-1) 0, by simp [allianceRows], by decide⟩
  apply (means_or_of_ands_iff Spells.besideCreature allianceRows (.of (some true) none)
    (by simp) fromRows).mpr
  constructor
  · intro cond there _ found eq
    rw [mem_singleton.mp there] at eq
    obtain rfl := Option.some.inj (template.symm.trans eq)
    refine .of fun before cond after split _ reference => ?_
    have there : cond ∈ [(Row.simple (-1) 6 alliance).condition .team 0] := by rw [split]; simp
    rw [mem_singleton.mp there] at reference
    exact absurd rfl reference
  · rintro ⟨first, here, plain, absent, templates⟩
    refine .elseGroup first here plain ?_ ?_
    · intro cond there _ _ missing
      rw [mem_singleton.mp there] at missing
      exact nomatch template.symm.trans missing
    · intro cond there same reference found eq
      have met := templates cond there same reference found eq
      rw [mem_singleton.mp there] at eq
      obtain rfl := Option.some.inj (template.symm.trans eq)
      rw [met_iff] at met ⊢
      obtain ⟨first, here, all⟩ := met
      refine ⟨first, here, fun cond there same => ⟨(all cond there same).1, fun reference => ?_⟩⟩
      rw [mem_singleton.mp there] at reference
      exact absurd rfl reference

/-- Templates that refer to each other are evaluated without end. -/
theorem cycle_never_ends :
    Spells.besideCreature.FromRows cyclicRows [firstTemplate] ∧
      ¬ MeansOrOfAnds Spells.besideCreature (Spells.besideCreature.referenceStore cyclicRows)
        (.of (some true) none) [firstTemplate] := by
  constructor
  · intro cond there
    rw [mem_singleton.mp there]
    exact ⟨.simple 13 (-1) 0, by simp [cyclicRows], by decide⟩
  · intro means
    obtain ⟨answer, ⟨depth, ends⟩, _⟩ := means [firstTemplate] (.refl _)
    have first : Spells.besideCreature.referenceStore cyclicRows 1 =
        some [(Row.simple (-1) (-2) 0).condition .none 2] := by decide
    have second : Spells.besideCreature.referenceStore cyclicRows 2 =
        some [(Row.simple (-2) (-1) 0).condition .none 1] := by decide
    have never : ∀ depth, ∀ row : Row, ∀ referenceId, referenceId = 1 ∨ referenceId = 2 →
        Spells.besideCreature.isObjectMeetToConditionList
          (Spells.besideCreature.referenceStore cyclicRows) (.of (some true) none) depth
          [row.condition .none referenceId] = none := by
      intro depth
      induction depth with
      | zero => intro row referenceId _; rfl
      | succ depth ih =>
        intro row referenceId known
        have loaded : (row.condition .none referenceId).isLoaded = true := by
          rcases known with rfl | rfl <;> rfl
        have reference : (row.condition .none referenceId).referenceId = referenceId := rfl
        unfold World.isObjectMeetToConditionList
        rw [foldlM_cons, if_pos loaded, reference]
        rcases known with rfl | rfl
        · rw [if_pos (by decide), first]
          simp [narrow, OrderedMap.value?, ih _ 2 (Or.inr rfl)]
        · rw [if_pos (by decide), second]
          simp [narrow, OrderedMap.value?, ih _ 1 (Or.inl rfl)]
    have none_ := never depth (.simple 13 (-1) 0) 1 (Or.inl rfl)
    cases none_.symm.trans ends

end OpenWoW.Conditions
