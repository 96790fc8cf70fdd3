import OpenWoW.Conditions
import Mathlib.Data.Nat.Bitwise

/-! What the type mask of a list of conditions says about the objects that meet it. -/
namespace OpenWoW.Conditions

open Grouping

namespace ObjectType

def gridBit : ObjectType → Nat
  | corpse => 0
  | unit => 1
  | dynamicObject => 2
  | gameObject => 3
  | player => 4
  | areaTrigger => 5

theorem gridMapTypeMask_toNat (t : ObjectType) : t.gridMapTypeMask.toNat = 2 ^ t.gridBit := by
  cases t <;> rfl

theorem within_testBit (t : ObjectType) (mask : UInt32) :
    t.within mask = mask.toNat.testBit t.gridBit := by
  have met : (mask &&& t.gridMapTypeMask).toNat = (mask.toNat.testBit t.gridBit).toNat *
      2 ^ t.gridBit := by
    rw [UInt32.toNat_and, gridMapTypeMask_toNat, Nat.and_two_pow]
  unfold within
  rw [Bool.eq_iff_iff, bne_iff_ne, ne_eq, ← UInt32.toNat_inj, met]
  cases mask.toNat.testBit t.gridBit <;> simp

theorem within_and (t : ObjectType) (a b : UInt32) :
    t.within (a &&& b) = (t.within a && t.within b) := by
  rw [within_testBit, within_testBit, within_testBit, UInt32.toNat_and, Nat.testBit_and]

theorem within_or (t : ObjectType) (a b : UInt32) :
    t.within (a ||| b) = (t.within a || t.within b) := by
  rw [within_testBit, within_testBit, within_testBit, UInt32.toNat_or, Nat.testBit_or]

theorem within_all (t : ObjectType) : t.within gridMapTypeMaskAll = true := by
  cases t <;> rfl

theorem within_zero (t : ObjectType) : t.within 0 = false := by
  cases t <;> rfl

end ObjectType

theorem typeMasks_test (t : ObjectType) : Test typeMasks t.within where
  widest := t.within_all
  meet := t.within_and
  empty := by
    intro mask empty
    rw [beq_iff_eq.mp empty]
    exact t.within_zero

theorem verdicts_test : Test verdicts id where
  widest := rfl
  meet := fun _ _ => rfl
  empty := fun b empty => by simpa [verdicts] using empty

theorem within_union {κ : Type} (t : ObjectType) (groups : List (κ × UInt32)) :
    t.within (groups.foldl (fun mask entry => mask ||| entry.2) 0) = true ↔
      ∃ entry ∈ groups, t.within entry.2 = true := by
  have more : ∀ mask, t.within (groups.foldl (fun mask entry => mask ||| entry.2) mask) = true ↔
      t.within mask = true ∨ ∃ entry ∈ groups, t.within entry.2 = true := by
    induction groups with
    | nil => simp
    | cons entry groups ih =>
      intro mask
      rw [List.foldl_cons, ih, t.within_or]
      simp [or_assoc]
  rw [more, t.within_zero]
  simp

def Condition.admits (cond : Condition) (t : ObjectType) : Bool :=
  cond.negativeCondition ||
  match cond.conditionType with
  | .none | .zoneId | .activeEvent | .instanceInfo | .mapId | .areaId | .nearCreature
  | .nearGameObject | .distanceTo | .worldState | .phaseMask | .spawnMask => true
  | .aura | .unitClass | .race | .level | .relationTo | .reactionTo | .alive | .hpVal | .hpPct
  | .unitState => t.isType typeMaskUnit
  | .item | .itemEquipped | .reputationRank | .achievement | .team | .skill | .questRewarded
  | .questTaken | .questComplete | .questNone | .spell | .drunkenState | .title | .gender =>
    t == .player
  | .objectEntry => t.typeId == cond.conditionValue1
  | .typeMask => t.isType cond.conditionValue1.toUInt16
  | .unused24 => false

theorem within_units (t : ObjectType) :
    t.within (gridMapTypeMaskCreature ||| gridMapTypeMaskPlayer) = t.isType typeMaskUnit := by
  cases t <;> rfl

theorem within_player (t : ObjectType) : t.within gridMapTypeMaskPlayer = (t == .player) := by
  cases t <;> rfl

theorem within_addType (t : ObjectType) (value mask added : UInt32) (type : UInt16) :
    t.within (Condition.addType value mask type added) =
      (t.within mask || (value &&& type.toUInt32 != 0 && t.within added)) := by
  unfold Condition.addType
  split
  · next set => rw [t.within_or, set, Bool.true_and]
  · next clear => rw [Bool.eq_false_iff.mpr clear, Bool.false_and, Bool.or_false]

theorem and_allowed {value allowed : UInt32} (only : value &&& ~~~allowed = 0) (mask : UInt32) :
    value &&& mask = value &&& (allowed &&& mask) := by
  apply UInt32.toBitVec_inj.mp
  apply BitVec.eq_of_getLsbD_eq
  intro i small
  have clear := congrArg (fun v : UInt32 => v.toBitVec.getLsbD i) only
  simp only [UInt32.toBitVec_and, UInt32.toBitVec_not, BitVec.getLsbD_and, BitVec.getLsbD_not,
    small] at clear ⊢
  cases h : value.toBitVec.getLsbD i <;> cases k : allowed.toBitVec.getLsbD i <;>
    simp_all

theorem narrowed_and (value : UInt32) (mask : UInt16) :
    (value.toUInt16 &&& mask != 0) = (value &&& mask.toUInt32 != 0) := by
  have same : (value.toUInt16 &&& mask).toNat = (value &&& mask.toUInt32).toNat := by
    apply Nat.eq_of_testBit_eq
    intro i
    rw [UInt16.toNat_and, UInt32.toNat_and, Nat.testBit_and, Nat.testBit_and,
      UInt32.toNat_toUInt16, UInt16.toNat_toUInt32, Nat.testBit_mod_two_pow]
    by_cases low : i < 16
    · simp [low]
    have high : mask.toNat < 2 ^ i :=
      Nat.lt_of_lt_of_le mask.toNat_lt (Nat.pow_le_pow_right (by decide) (by omega))
    simp [Nat.testBit_lt_two_pow high]
  rw [Bool.eq_iff_iff, bne_iff_ne, bne_iff_ne, ne_eq, ne_eq, ← UInt16.toNat_inj,
    ← UInt32.toNat_inj, same]
  rfl

theorem and_or_ne_zero (value a b : UInt32) :
    (value &&& (a ||| b) != 0) = (value &&& a != 0 || value &&& b != 0) := by
  have union : value &&& (a ||| b) = (value &&& a) ||| (value &&& b) := by
    apply UInt32.toBitVec_inj.mp
    apply BitVec.eq_of_getLsbD_eq
    intro i _
    simp [Bool.and_or_distrib_left]
  rw [union, Bool.eq_iff_iff]
  simp [UInt32.or_eq_zero_iff]
  tauto

theorem within_typeMask (t : ObjectType) {value : UInt32}
    (only : value &&& ~~~(0xB8 : UInt32) = 0) :
    t.within (Condition.addType value (Condition.addType value (Condition.addType value
      (Condition.addType value (Condition.addType value 0 typeMaskUnit
        (gridMapTypeMaskCreature ||| gridMapTypeMaskPlayer)) typeMaskPlayer gridMapTypeMaskPlayer)
        typeMaskGameObject gridMapTypeMaskGameObject) typeMaskCorpse gridMapTypeMaskCorpse)
        typeMaskAreaTrigger gridMapTypeMaskAreaTrigger) = t.isType value.toUInt16 := by
  unfold ObjectType.isType
  rw [narrowed_and, and_allowed only]
  simp only [within_addType, ObjectType.within_zero, Bool.false_or, within_units, within_player]
  have none_ : value &&& typeMaskAreaTrigger.toUInt32 = 0 := by
    rw [and_allowed only]
    exact UInt32.and_zero
  rw [none_]
  generalize unit : typeMaskUnit.toUInt32 = bit3
  generalize player : typeMaskPlayer.toUInt32 = bit4
  generalize gameObject : typeMaskGameObject.toUInt32 = bit5
  generalize corpse : typeMaskCorpse.toUInt32 = bit7
  cases t with
  | unit =>
    have bits : (0xB8 : UInt32) &&& ObjectType.unit.objectType.toUInt32 = bit3 := by
      rw [← unit]
      decide
    rw [bits]
    show ((value &&& bit3 != 0 && true || value &&& bit4 != 0 && false) ||
      value &&& bit5 != 0 && false || value &&& bit7 != 0 && false || false) = _
    simp
  | player =>
    have bits : (0xB8 : UInt32) &&& ObjectType.player.objectType.toUInt32 = bit3 ||| bit4 := by
      rw [← unit, ← player]
      decide
    rw [bits, and_or_ne_zero]
    show ((value &&& bit3 != 0 && true || value &&& bit4 != 0 && true) ||
      value &&& bit5 != 0 && false || value &&& bit7 != 0 && false || false) = _
    simp
  | gameObject =>
    have bits : (0xB8 : UInt32) &&& ObjectType.gameObject.objectType.toUInt32 = bit5 := by
      rw [← gameObject]
      decide
    rw [bits]
    show ((value &&& bit3 != 0 && false || value &&& bit4 != 0 && false) ||
      value &&& bit5 != 0 && true || value &&& bit7 != 0 && false || false) = _
    simp
  | corpse =>
    have bits : (0xB8 : UInt32) &&& ObjectType.corpse.objectType.toUInt32 = bit7 := by
      rw [← corpse]
      decide
    rw [bits]
    show ((value &&& bit3 != 0 && false || value &&& bit4 != 0 && false) ||
      value &&& bit5 != 0 && false || value &&& bit7 != 0 && true || false) = _
    simp
  | dynamicObject =>
    have bits : (0xB8 : UInt32) &&& ObjectType.dynamicObject.objectType.toUInt32 = 0 := by decide
    rw [bits, UInt32.and_zero]
    show ((value &&& bit3 != 0 && false || value &&& bit4 != 0 && false) ||
      value &&& bit5 != 0 && false || value &&& bit7 != 0 && false || false) = _
    simp
  | areaTrigger =>
    have bits : (0xB8 : UInt32) &&& ObjectType.areaTrigger.objectType.toUInt32 = 0 := by decide
    rw [bits, UInt32.and_zero]
    show ((value &&& bit3 != 0 && false || value &&& bit4 != 0 && false) ||
      value &&& bit5 != 0 && false || value &&& bit7 != 0 && false || false) = _
    simp

section

variable {ι : Type} {w : World ι} {cond : Condition}

theorem accepted_target (valid : w.isConditionTypeValid cond = true) :
    cond.conditionTarget < cond.getMaxAvailableConditionTargets := by
  unfold World.isConditionTypeValid at valid
  split at valid
  · cases valid
  split at valid
  · cases valid
  · next within => exact Nat.not_le.mp within

theorem objectEntry_accepted (valid : w.isConditionTypeValid cond = true)
    (kind : cond.conditionType = .objectEntry) : cond.conditionValue1 = 3 ∨
      cond.conditionValue1 = 4 ∨ cond.conditionValue1 = 5 ∨ cond.conditionValue1 = 7 := by
  have target := accepted_target valid
  unfold World.isConditionTypeValid at valid
  rw [kind, if_neg (by decide), if_neg (Nat.not_le.mpr target)] at valid
  simp only at valid
  split at valid
  all_goals tauto

theorem typeMask_accepted (valid : w.isConditionTypeValid cond = true)
    (kind : cond.conditionType = .typeMask) : cond.conditionValue1 &&& ~~~(0xB8 : UInt32) = 0 := by
  have target := accepted_target valid
  unfold World.isConditionTypeValid at valid
  rw [kind, if_neg (by decide), if_neg (Nat.not_le.mpr target)] at valid
  rw [Bool.and_eq_true, beq_iff_eq] at valid
  exact valid.2

theorem within_objectEntry (t : ObjectType) {typeId : UInt32}
    (accepted : typeId = 3 ∨ typeId = 4 ∨ typeId = 5 ∨ typeId = 7) :
    t.within (Condition.objectEntryMask typeId) = (t.typeId == typeId) := by
  rcases accepted with rfl | rfl | rfl | rfl <;> cases t <;> rfl

theorem mask_admits (valid : w.isConditionTypeValid cond = true) :
    ∃ mask, cond.getSearcherTypeMaskForCondition = some mask ∧
      ∀ t : ObjectType, t.within mask = cond.admits t := by
  unfold Condition.getSearcherTypeMaskForCondition Condition.admits
  cases negated : cond.negativeCondition with
  | true => exact ⟨_, rfl, fun t => t.within_all⟩
  | false =>
    simp only [Bool.false_eq_true, if_false, Bool.false_or]
    cases kind : cond.conditionType
    case objectEntry =>
      exact ⟨_, rfl, fun t => within_objectEntry t (objectEntry_accepted valid kind)⟩
    case typeMask =>
      exact ⟨_, rfl, fun t => within_typeMask t (typeMask_accepted valid kind)⟩
    case unused24 =>
      have target := accepted_target valid
      unfold World.isConditionTypeValid at valid
      rw [kind, if_neg (by decide), if_neg (Nat.not_le.mpr target)] at valid
      cases valid
    all_goals first
      | exact ⟨_, rfl, fun t => t.within_all⟩
      | exact ⟨_, rfl, within_units⟩
      | exact ⟨_, rfl, within_player⟩

variable {test : ι → Option Bool}

theorem ofUnit_unit {object : ι} (met : w.ofUnit object test = some true) :
    (w.objectType object).isType typeMaskUnit = true := by
  unfold World.ofUnit World.toUnit at met
  by_cases unit : (w.objectType object).isType typeMaskUnit = true
  · exact unit
  · rw [if_neg unit] at met
    cases met

theorem ofPlayer_player {object : ι}
    (met : w.ofPlayer object test = some true) : (w.objectType object == .player) = true := by
  unfold World.ofPlayer World.toPlayer at met
  by_cases player : w.objectType object = .player
  · exact beq_iff_eq.mpr player
  · rw [if_neg player] at met
    cases met

theorem ofUnit_total (object : ι) (total : ∀ unit, (test unit).isSome) :
    (w.ofUnit object test).isSome := by
  unfold World.ofUnit
  cases w.toUnit object with
  | none => rfl
  | some unit => exact total unit

theorem ofPlayer_total (object : ι)
    (total : ∀ player, (test player).isSome) : (w.ofPlayer object test).isSome := by
  unfold World.ofPlayer
  cases w.toPlayer object with
  | none => rfl
  | some player => exact total player

theorem compareValues_total {β : Type} [LT β] [LE β] [DecidableEq β] [DecidableLT β]
    [DecidableLE β] {type : UInt32} (known : type < compTypeMax) (val1 val2 : β) :
    (compareValues type val1 val2).isSome := by
  have small : type.toNat < 5 := UInt32.lt_iff_toNat_lt.mp known
  have kinds : type = 0 ∨ type = 1 ∨ type = 2 ∨ type = 3 ∨ type = 4 := by
    simp only [← UInt32.toNat_inj]
    show type.toNat = 0 ∨ type.toNat = 1 ∨ type.toNat = 2 ∨ type.toNat = 3 ∨ type.toNat = 4
    omega
  rcases kinds with rfl | rfl | rfl | rfl | rfl <;> rfl

section

variable [DecidableEq ι]

/-- No assertion fails on an accepted condition. -/
theorem condMeets_total (valid : w.isConditionTypeValid cond = true)
    (sourceInfo : ConditionSourceInfo ι) (object : ι) :
    (w.condMeets cond sourceInfo object).isSome := by
  have target := accepted_target valid
  unfold World.isConditionTypeValid at valid
  split at valid
  · cases valid
  rw [if_neg (Nat.not_le.mpr target)] at valid
  unfold World.condMeets
  cases kind : cond.conditionType
  case item =>
    rw [kind] at valid
    rw [Bool.and_eq_true, bne_iff_ne] at valid
    apply ofPlayer_total
    intro player
    rw [if_neg valid.2]
    rfl
  case level =>
    rw [kind] at valid
    exact ofUnit_total object fun unit => compareValues_total (of_decide_eq_true valid) _ _
  case hpVal =>
    rw [kind] at valid
    exact ofUnit_total object fun unit => compareValues_total (of_decide_eq_true valid) _ _
  case hpPct =>
    rw [kind] at valid
    rw [Bool.and_eq_true] at valid
    exact ofUnit_total object fun unit => compareValues_total (of_decide_eq_true valid.2) _ _
  case distanceTo =>
    rw [kind] at valid
    rw [Bool.and_eq_true] at valid
    simp only
    split
    · exact compareValues_total (of_decide_eq_true valid.2) _ _
    · rfl
  case relationTo =>
    simp only
    split <;> rfl
  case reactionTo =>
    simp only
    split <;> rfl
  all_goals first
    | rfl
    | exact ofUnit_total object fun _ => rfl
    | exact ofPlayer_total object fun _ => rfl

/-- What is met without a negation is admitted. -/
theorem condMeets_admits {sourceInfo : ConditionSourceInfo ι} {object : ι}
    (met : w.condMeets cond sourceInfo object = some true) :
    cond.admits (w.objectType object) = true := by
  unfold World.condMeets at met
  unfold Condition.admits
  rw [Bool.or_eq_true]
  right
  cases kind : cond.conditionType
  case objectEntry =>
    rw [kind] at met
    have both := Option.some.inj met
    rw [Bool.and_eq_true] at both
    exact both.1
  case typeMask =>
    rw [kind] at met
    exact Option.some.inj met
  case relationTo =>
    rw [kind] at met
    simp only at met
    split at met
    · rename_i isUnit
      unfold World.toUnit at isUnit
      split at isUnit
      · next unit => exact unit
      · cases isUnit
    · cases met
  case reactionTo =>
    rw [kind] at met
    simp only at met
    split at met
    · rename_i isUnit
      unfold World.toUnit at isUnit
      split at isUnit
      · next unit => exact unit
      · cases isUnit
    · cases met
  case unused24 =>
    rw [kind] at met
    cases met
  all_goals first
    | rfl
    | (rw [kind] at met; exact ofUnit_unit met)
    | (rw [kind] at met; exact ofPlayer_player met)

end

end

def Loaded {ι : Type} (w : World ι) (references : References) :
    ConditionSourceType → Nat → List Condition → Prop
  | _, 0, _ => False
  | sourceType, depth + 1, conditions => ∀ cond ∈ conditions,
      if cond.referenceId ≠ 0 then
        ∃ ref, references cond.referenceId = some ref ∧ Loaded w references .none depth ref
      else cond.sourceType = sourceType ∧ w.isConditionTypeValid cond = true

def Open (references : References) (t : ObjectType) : Nat → List Condition → Prop
  | 0, _ => False
  | depth + 1, conditions => conditions = [] ∨ ∃ first ∈ conditions, ∀ cond ∈ conditions,
      cond.elseGroup = first.elseGroup →
      if cond.referenceId ≠ 0 then
        ∃ ref, references cond.referenceId = some ref ∧ Open references t depth ref
      else cond.admits t = true

section

variable {ι : Type} {w : World ι} {references : References}

theorem loaded_isLoaded {cond : Condition} (loaded : cond.referenceId ≠ 0 ∨
    w.isConditionTypeValid cond = true) : cond.isLoaded = true := by
  unfold Condition.isLoaded
  rw [Bool.or_eq_true, bne_iff_ne, bne_iff_ne]
  rcases loaded with reference | valid
  · exact Or.inr reference
  left
  intro empty
  unfold World.isConditionTypeValid at valid
  rw [if_pos empty] at valid
  cases valid

theorem getMaxAvailableConditionTargets_le (cond : Condition) :
    cond.getMaxAvailableConditionTargets ≤ 2 := by
  unfold Condition.getMaxAvailableConditionTargets
  split <;> decide

section

variable [DecidableEq ι]

theorem meets_total {cond : Condition} (valid : w.isConditionTypeValid cond = true)
    (sourceInfo : ConditionSourceInfo ι) : (w.meets cond sourceInfo).isSome := by
  have target := accepted_target valid
  have few := getMaxAvailableConditionTargets_le cond
  unfold World.meets
  rw [if_neg (by omega)]
  split
  · rfl
  · rw [Option.isSome_map]
    exact condMeets_total valid sourceInfo _

theorem meets_admits {cond : Condition} {sourceInfo : ConditionSourceInfo ι} {object : ι}
    (asked : sourceInfo cond.conditionTarget = some object)
    (met : w.meets cond sourceInfo = some true) : cond.admits (w.objectType object) = true := by
  unfold World.meets at met
  split at met
  · cases met
  rw [asked] at met
  obtain ⟨condMeets, held, passed⟩ := Option.map_eq_some_iff.mp met
  cases negated : cond.negativeCondition with
  | true =>
    unfold Condition.admits
    rw [negated]
    rfl
  | false =>
    rw [negated] at passed
    simp only [Bool.false_eq_true, if_false, Bool.and_eq_true] at passed
    rw [passed.1] at held
    exact condMeets_admits held

end

variable {sourceType : ConditionSourceType} {conditions : List Condition}

variable {depth : Nat}

/-- The mask of a list is exactly the types it is open to. -/
theorem list_mask (loaded : Loaded w references sourceType depth conditions) :
    ∃ mask, getSearcherTypeMaskForConditionList references depth conditions = some mask ∧
      ∀ t : ObjectType, t.within mask = true ↔ Open references t depth conditions := by
  induction depth generalizing sourceType conditions with
  | zero => exact absurd loaded id
  | succ depth ih =>
    unfold getSearcherTypeMaskForConditionList Open
    cases empty : conditions.isEmpty with
    | true =>
      rw [List.isEmpty_iff] at empty
      exact ⟨_, rfl, fun t => iff_of_true t.within_all (Or.inl empty)⟩
    | false =>
      have members : ∀ cond ∈ conditions, cond.isLoaded = true ∧ ∃ mask,
          (if cond.referenceId ≠ 0 then (references cond.referenceId).bind
            (getSearcherTypeMaskForConditionList references depth)
          else cond.getSearcherTypeMaskForCondition) = some mask ∧
          ∀ t : ObjectType, t.within mask = true ↔ if cond.referenceId ≠ 0 then
            ∃ ref, references cond.referenceId = some ref ∧ Open references t depth ref
          else cond.admits t = true := by
        intro cond here
        have member := loaded cond here
        by_cases reference : cond.referenceId ≠ 0
        · rw [if_pos reference] at member
          obtain ⟨ref, found, inner⟩ := member
          obtain ⟨mask, computed, types⟩ := ih inner
          refine ⟨loaded_isLoaded (w := w) (Or.inl reference), mask, ?_, fun t => ?_⟩
          · rw [if_pos reference, found]
            exact computed
          · rw [if_pos reference, types t]
            simp [found]
        · rw [if_neg reference] at member
          obtain ⟨mask, computed, types⟩ := mask_admits member.2
          refine ⟨loaded_isLoaded (Or.inr member.2), mask, ?_, fun t => ?_⟩
          · rw [if_neg reference, computed]
          · rw [if_neg reference, types t]
      choose! isLoaded mask computed types using members
      obtain ⟨groups, gathered, all⟩ := gather Condition.elseGroup mask
        (fun elseGroupStore cond =>
          if !cond.isLoaded then none
          else narrow typeMasks elseGroupStore cond.elseGroup
            (if cond.referenceId ≠ 0 then (references cond.referenceId).bind
              (getSearcherTypeMaskForConditionList references depth)
            else cond.getSearcherTypeMaskForCondition))
        (by
          intro elseGroupStore cond here
          rw [isLoaded cond here, computed cond here]
          rfl)
      rw [gathered]
      refine ⟨_, rfl, fun t => ?_⟩
      rw [within_union, all.any_passes (typeMasks_test t)]
      have some_ : conditions ≠ [] := by
        intro none_
        rw [none_] at empty
        cases empty
      rw [or_iff_right some_]
      refine exists_congr fun first => and_congr_right fun _ => ?_
      exact forall₃_congr fun cond here _ => types cond here t

variable [DecidableEq ι]

def World.MemberMet (w : World ι) (references : References) (sourceInfo : ConditionSourceInfo ι)
    (depth : Nat) (cond : Condition) : Prop :=
  if cond.referenceId ≠ 0 then ∃ ref, references cond.referenceId = some ref ∧
    w.isObjectMeetToConditionList references sourceInfo depth ref = some true
  else w.meets cond sourceInfo = some true

def World.GroupMet (w : World ι) (references : References) (sourceInfo : ConditionSourceInfo ι)
    (depth : Nat) (conditions : List Condition) (first : Condition) : Prop :=
  ∀ cond ∈ conditions, cond.elseGroup = first.elseGroup →
    w.MemberMet references sourceInfo depth cond

theorem list_meets_of {sourceInfo : ConditionSourceInfo ι}
    (loaded : Loaded w references sourceType (depth + 1) conditions)
    (inner : ∀ ref, Loaded w references .none depth ref →
      (w.isObjectMeetToConditionList references sourceInfo depth ref).isSome) :
    ∃ met, w.isObjectMeetToConditionList references sourceInfo (depth + 1) conditions = some met ∧
      (met = true ↔ ∃ first ∈ conditions,
        w.GroupMet references sourceInfo depth conditions first) := by
  have members : ∀ cond ∈ conditions, cond.isLoaded = true ∧ ∃ met,
      (if cond.referenceId ≠ 0 then (references cond.referenceId).elim (some true)
        (w.isObjectMeetToConditionList references sourceInfo depth)
      else w.meets cond sourceInfo) = some met ∧
      (met = true ↔ w.MemberMet references sourceInfo depth cond) := by
    intro cond here
    have member := loaded cond here
    unfold World.MemberMet
    by_cases reference : cond.referenceId ≠ 0
    · rw [if_pos reference] at member
      obtain ⟨ref, found, below⟩ := member
      obtain ⟨met, computed⟩ := Option.isSome_iff_exists.mp (inner ref below)
      refine ⟨loaded_isLoaded (w := w) (Or.inl reference), met, ?_, ?_⟩
      · rw [if_pos reference, found]
        exact computed
      · rw [if_pos reference]
        simp [found, computed]
    · rw [if_neg reference] at member
      obtain ⟨met, computed⟩ := Option.isSome_iff_exists.mp (meets_total member.2 sourceInfo)
      refine ⟨loaded_isLoaded (Or.inr member.2), met, ?_, ?_⟩
      · rw [if_neg reference, computed]
      · rw [if_neg reference, computed, Option.some.injEq]
  choose! isLoaded met computed meaning using members
  obtain ⟨groups, gathered, all⟩ := gather Condition.elseGroup met
    (fun elseGroupStore (cond : Condition) =>
      if cond.isLoaded then
        narrow verdicts elseGroupStore cond.elseGroup
          (if cond.referenceId ≠ 0 then (references cond.referenceId).elim (some true)
            (w.isObjectMeetToConditionList references sourceInfo depth)
          else w.meets cond sourceInfo)
      else some elseGroupStore)
    (by
      intro elseGroupStore cond here
      rw [if_pos (isLoaded cond here), computed cond here])
  unfold World.isObjectMeetToConditionList
  rw [gathered]
  refine ⟨_, rfl, ?_⟩
  rw [List.any_eq_true]
  refine (all.any_passes verdicts_test).trans (exists_congr fun first => and_congr_right fun _ => ?_)
  exact forall₃_congr fun cond here _ => meaning cond here

theorem list_total (sourceInfo : ConditionSourceInfo ι)
    (loaded : Loaded w references sourceType depth conditions) :
    (w.isObjectMeetToConditionList references sourceInfo depth conditions).isSome := by
  induction depth generalizing sourceType conditions with
  | zero => exact absurd loaded id
  | succ depth ih =>
    obtain ⟨met, computed, _⟩ := list_meets_of loaded fun _ below => ih below
    rw [computed]
    rfl

theorem list_meets (sourceInfo : ConditionSourceInfo ι)
    (loaded : Loaded w references sourceType (depth + 1) conditions) :
    ∃ met, w.isObjectMeetToConditionList references sourceInfo (depth + 1) conditions = some met ∧
      (met = true ↔ ∃ first ∈ conditions,
        w.GroupMet references sourceInfo depth conditions first) :=
  list_meets_of loaded fun _ below => list_total sourceInfo below

theorem templates_open {sourceInfo : ConditionSourceInfo ι} {object : ι}
    (target : sourceInfo 0 = some object) (loaded : Loaded w references .none depth conditions)
    (met : w.isObjectMeetToConditionList references sourceInfo depth conditions = some true) :
    Open references (w.objectType object) depth conditions := by
  induction depth generalizing conditions with
  | zero => exact absurd loaded id
  | succ depth ih =>
    obtain ⟨_, computed, meaning⟩ := list_meets sourceInfo loaded
    rw [met] at computed
    obtain ⟨first, here, group⟩ := meaning.mp (Option.some.inj computed).symm
    refine Or.inr ⟨first, here, fun cond there same => ?_⟩
    have member := loaded cond there
    have passed := group cond there same
    unfold World.MemberMet at passed
    by_cases reference : cond.referenceId ≠ 0
    · rw [if_pos reference] at member passed ⊢
      obtain ⟨ref, found, below⟩ := member
      obtain ⟨ref', found', meets⟩ := passed
      obtain rfl := Option.some.inj (found.symm.trans found')
      exact ⟨ref, found, ih below meets⟩
    · rw [if_neg reference] at member passed ⊢
      have own := accepted_target member.2
      have one : cond.getMaxAvailableConditionTargets = 1 := by
        unfold Condition.getMaxAvailableConditionTargets
        rw [member.1]
      have zero : cond.conditionTarget = 0 := by omega
      exact meets_admits (by rw [zero]; exact target) passed

end

end OpenWoW.Conditions
