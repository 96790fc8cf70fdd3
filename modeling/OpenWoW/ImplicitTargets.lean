import Mathlib.Data.List.FinRange
import Mathlib.Data.List.Induction
import Mathlib.Data.Nat.Bitwise
import OpenWoW.Lib.Run

/-! Conditions on the implicit targets of a spell. -/
namespace OpenWoW.Conditions

open List Function

abbrev maxSpellEffects : Nat := 3

/-- A condition of a spell, by its address, with the mask of its effects. -/
structure TargetRow where
  cond : Nat
  sourceGroup : Nat
  deriving DecidableEq, Repr

/-- The pointers to the lists of a spell's effects, and the lists at their addresses. -/
structure SpellInfo where
  implicitTargetConditions : Fin maxSpellEffects → Option Nat
  lists : Nat → List Nat
  nextList : Nat

namespace SpellInfo

/-- A spell before the conditions are loaded. -/
def fresh : SpellInfo := ⟨fun _ => none, fun _ => [], 0⟩

variable (spellInfo : SpellInfo)

/-- The mask of an effect and those behind it with the same list, or also without one. -/
def sharedMask (i : Fin maxSpellEffects) : Nat :=
  (List.finRange maxSpellEffects).foldl (fun sharedMask effIndex =>
    if i < effIndex ∧
        spellInfo.implicitTargetConditions effIndex = spellInfo.implicitTargetConditions i then
      sharedMask ||| 2 ^ effIndex.val
    else sharedMask) (2 ^ i.val)

def sharedMasks : List Nat :=
  (List.finRange maxSpellEffects).foldl (fun (sharedMasks : List Nat) (i : Fin maxSpellEffects) =>
    if sharedMasks.any (·.testBit i.val) then sharedMasks
    else sharedMasks ++ [spellInfo.sharedMask i]) []

/-- `addToSpellImplicitTargetConditions`. A new list always gets to some effect, the first of its
shared mask that the row has. -/
def addToSpellImplicitTargetConditions (row : TargetRow) : SpellInfo × Bool :=
  match spellInfo.sharedMasks.find? fun itr => itr &&& row.sourceGroup != 0 with
  | none => (spellInfo, true)
  | some itr =>
    match Fin.find? fun firstEffIndex : Fin maxSpellEffects => itr.testBit firstEffIndex with
    | none => (spellInfo, false)
    | some firstEffIndex =>
      match spellInfo.implicitTargetConditions firstEffIndex with
      | some sharedList =>
        if row.sourceGroup ≠ itr then (spellInfo, false)
        else
          ({ spellInfo with
            lists := Function.update spellInfo.lists sharedList
              (spellInfo.lists sharedList ++ [row.cond]) }, true)
      | none =>
        ({ implicitTargetConditions := fun i =>
            if firstEffIndex ≤ i ∧ (itr &&& row.sourceGroup).testBit i then
              some spellInfo.nextList
            else spellInfo.implicitTargetConditions i
           lists := Function.update spellInfo.lists spellInfo.nextList [row.cond]
           nextList := spellInfo.nextList + 1 }, true)

/-- The condition is in the list of an effect. -/
def Contains (cond : Nat) (i : Fin maxSpellEffects) : Prop :=
  ∃ list, spellInfo.implicitTargetConditions i = some list ∧ cond ∈ spellInfo.lists list

end SpellInfo

section

variable {spellInfo : SpellInfo}

theorem testBit_foldl {α : Type} (p : α → Prop) [DecidablePred p] (bit : α → Nat) (as : List α)
    (mask k : Nat) :
    (as.foldl (fun mask a => if p a then mask ||| 2 ^ bit a else mask) mask).testBit k = true ↔
      mask.testBit k = true ∨ ∃ a ∈ as, p a ∧ bit a = k := by
  induction as generalizing mask with
  | nil => simp
  | cons a as ih =>
    rw [foldl_cons, ih]
    split
    · rename_i holds
      simp only [Nat.testBit_or, Nat.testBit_two_pow, Bool.or_eq_true, decide_eq_true_eq,
        mem_cons, exists_eq_or_imp, holds, true_and, or_assoc]
    · rename_i fails
      simp [fails]

theorem sharedMask_testBit (i : Fin maxSpellEffects) (k : Nat) :
    (spellInfo.sharedMask i).testBit k = true ↔
      i.val = k ∨ ∃ j : Fin maxSpellEffects, (i < j ∧ spellInfo.implicitTargetConditions j =
        spellInfo.implicitTargetConditions i) ∧ j.val = k := by
  unfold SpellInfo.sharedMask
  rw [testBit_foldl]
  simp [Nat.testBit_two_pow]

/-- The effect is the lowest one of its class. -/
def Leads (spellInfo : SpellInfo) (i : Fin maxSpellEffects) : Prop :=
  ∀ j < i, spellInfo.implicitTargetConditions j ≠ spellInfo.implicitTargetConditions i

instance (i : Fin maxSpellEffects) : Decidable (Leads spellInfo i) := by
  unfold Leads
  infer_instance

variable {i : Fin maxSpellEffects}

theorem leads_testBit (leads : Leads spellInfo i) (k : Nat) :
    (spellInfo.sharedMask i).testBit k = true ↔ ∃ j : Fin maxSpellEffects,
      spellInfo.implicitTargetConditions j = spellInfo.implicitTargetConditions i ∧ j.val = k := by
  rw [sharedMask_testBit]
  constructor
  · rintro (rfl | ⟨j, ⟨_, same⟩, rfl⟩)
    · exact ⟨i, rfl, rfl⟩
    · exact ⟨j, same, rfl⟩
  · rintro ⟨j, same, rfl⟩
    rcases lt_trichotomy j i with below | rfl | above
    · exact absurd same (leads j below)
    · exact Or.inl rfl
    · exact Or.inr ⟨j, ⟨above, same⟩, rfl⟩

theorem exists_leader (spellInfo : SpellInfo) (i : Fin maxSpellEffects) :
    ∃ j ≤ i, Leads spellInfo j ∧
      spellInfo.implicitTargetConditions j = spellInfo.implicitTargetConditions i := by
  obtain ⟨j, same, lowest⟩ := (Fin.exists_iff_exists_minimal fun j =>
    spellInfo.implicitTargetConditions j = spellInfo.implicitTargetConditions i).mp ⟨i, rfl⟩
  refine ⟨j, ?_, fun k below => ?_, same⟩
  · by_contra above
    exact lowest i (by omega) rfl
  · rw [same]
    exact lowest k below

/-- The shared masks are those of the classes, by their lowest effects. -/
theorem sharedMasks_eq (spellInfo : SpellInfo) :
    spellInfo.sharedMasks =
      ((List.finRange maxSpellEffects).filter (Leads spellInfo ·)).map spellInfo.sharedMask := by
  have folds : ∀ is : List (Fin maxSpellEffects), is.Pairwise (· < ·) →
      (∀ i ∈ is, ∀ j < i, j ∈ is) →
      is.foldl (fun (sharedMasks : List Nat) (i : Fin maxSpellEffects) =>
        if sharedMasks.any (·.testBit i.val) then sharedMasks
        else sharedMasks ++ [spellInfo.sharedMask i]) [] =
      (is.filter (Leads spellInfo ·)).map spellInfo.sharedMask := by
    intro is
    induction is using List.reverseRecOn with
    | nil => intros; rfl
    | append_singleton is i ih =>
      intro ascending closed
      have ⟨before, _, last⟩ := pairwise_append.mp ascending
      have inside : ∀ j < i, j ∈ is := by
        intro j below
        rcases mem_append.mp (closed i (by simp) j below) with old | new
        · exact old
        · rw [mem_singleton.mp new] at below
          exact absurd below (lt_irrefl i)
      have closed' : ∀ k ∈ is, ∀ j < k, j ∈ is := fun k there j below =>
        inside j (lt_trans below (last k there i (by simp)))
      have found : ((is.filter (Leads spellInfo ·)).map spellInfo.sharedMask).any
          (·.testBit i.val) = true ↔ ¬ Leads spellInfo i := by
        rw [any_eq_true]
        constructor
        · rintro ⟨mask, there, bit⟩
          obtain ⟨j, led, rfl⟩ := mem_map.mp there
          have ⟨listed, leads⟩ := mem_filter.mp led
          obtain ⟨k, same, eq⟩ := (leads_testBit (of_decide_eq_true leads) i.val).mp bit
          rw [Fin.ext eq] at same
          exact fun own => own j (last j listed i (by simp)) same.symm
        · intro not
          obtain ⟨j, atMost, leads, same⟩ := exists_leader spellInfo i
          have below : j < i := lt_of_le_of_ne atMost fun eq => not (eq ▸ leads)
          refine ⟨_, mem_map_of_mem (mem_filter.mpr ⟨inside j below,
            decide_eq_true leads⟩), (leads_testBit leads i.val).mpr ⟨i, same.symm, rfl⟩⟩
      rw [foldl_append, ih before closed', foldl_cons, foldl_nil, filter_append, map_append]
      by_cases leads : Leads spellInfo i
      · rw [if_neg (fun is => found.mp is leads)]
        simp [leads]
      · rw [if_pos (found.mpr leads)]
        simp [leads]
  exact folds _ (pairwise_lt_finRange _) fun _ _ j _ => mem_finRange j

def First (spellInfo : SpellInfo) (mask : Nat) (i : Fin maxSpellEffects) : Prop :=
  Leads spellInfo i ∧
    (∃ k : Fin maxSpellEffects, spellInfo.implicitTargetConditions k =
      spellInfo.implicitTargetConditions i ∧ mask.testBit k = true) ∧
    ∀ j < i, Leads spellInfo j → ∀ k : Fin maxSpellEffects,
      spellInfo.implicitTargetConditions k = spellInfo.implicitTargetConditions j →
      mask.testBit k = false

theorem and_ne_zero_iff (leads : Leads spellInfo i) (mask : Nat) :
    (spellInfo.sharedMask i &&& mask != 0) = true ↔ ∃ k : Fin maxSpellEffects,
      spellInfo.implicitTargetConditions k = spellInfo.implicitTargetConditions i ∧
        mask.testBit k = true := by
  rw [bne_iff_ne]
  constructor
  · intro meets
    obtain ⟨k, bit⟩ := Nat.exists_testBit_of_ne_zero meets
    rw [Nat.testBit_and, Bool.and_eq_true, leads_testBit leads] at bit
    obtain ⟨⟨j, same, rfl⟩, inMask⟩ := bit
    exact ⟨j, same, inMask⟩
  · rintro ⟨k, same, inMask⟩ none_
    have bit : (spellInfo.sharedMask i &&& mask).testBit k = true := by
      rw [Nat.testBit_and, (leads_testBit leads k).mpr ⟨k, same, rfl⟩, inMask]
      rfl
    rw [none_, Nat.zero_testBit] at bit
    cases bit

theorem find_first (spellInfo : SpellInfo) (mask : Nat) :
    (spellInfo.sharedMasks.find? (fun itr => itr &&& mask != 0) = none ∧
      ∀ k : Fin maxSpellEffects, mask.testBit k = false) ∨
    ∃ i, First spellInfo mask i ∧
      spellInfo.sharedMasks.find? (fun itr => itr &&& mask != 0) =
        some (spellInfo.sharedMask i) := by
  rw [sharedMasks_eq, find?_map, find?_filter, ← Fin.find?_eq_find?_finRange]
  generalize found : @Fin.find? maxSpellEffects _ = lowest
  cases lowest with
  | none =>
    refine Or.inl ⟨rfl, fun k => ?_⟩
    obtain ⟨j, _, leads, same⟩ := exists_leader spellInfo k
    have no := Fin.find?_eq_none_iff.mp found j
    simp only [leads, decide_true, true_and, decide_eq_false_iff_not, comp_apply] at no
    by_contra inMask
    exact no ((and_ne_zero_iff leads mask).mpr ⟨k, same.symm, by simpa using inMask⟩)
  | some i =>
    obtain ⟨holds, before⟩ := Fin.find?_eq_some_iff.mp found
    simp only [decide_eq_true_eq, comp_apply] at holds
    refine Or.inr ⟨i, ⟨holds.1, (and_ne_zero_iff holds.1 mask).mp holds.2, ?_⟩, rfl⟩
    intro j below leads k same
    have no := before j below
    simp only [leads, decide_true, true_and, decide_eq_false_iff_not, comp_apply] at no
    by_contra inMask
    exact no ((and_ne_zero_iff leads mask).mpr ⟨k, same, by simpa using inMask⟩)

theorem find_lowest (leads : Leads spellInfo i) :
    Fin.find? (fun k : Fin maxSpellEffects => (spellInfo.sharedMask i).testBit k) = some i := by
  refine Fin.find?_eq_some_iff.mpr ⟨(leads_testBit leads i).mpr ⟨i, rfl, rfl⟩, fun j below => ?_⟩
  rw [Bool.eq_false_iff]
  intro bit
  obtain ⟨k, same, eq⟩ := (leads_testBit leads j).mp bit
  rw [Fin.ext eq] at same
  exact leads j below same

end

namespace SpellInfo

variable (spellInfo : SpellInfo)

/-- A condition is added to a list that exists. -/
def push (list cond : Nat) : SpellInfo :=
  { spellInfo with
    lists := Function.update spellInfo.lists list (spellInfo.lists list ++ [cond]) }

/-- The effects of a row that have no list get a new one. -/
def assign (row : TargetRow) : SpellInfo where
  implicitTargetConditions := fun i =>
    if spellInfo.implicitTargetConditions i = none ∧ row.sourceGroup.testBit i = true then
      some spellInfo.nextList
    else spellInfo.implicitTargetConditions i
  lists := Function.update spellInfo.lists spellInfo.nextList [row.cond]
  nextList := spellInfo.nextList + 1

end SpellInfo

/-- What `addToSpellImplicitTargetConditions` does with a row. -/
inductive Added (spellInfo : SpellInfo) (row : TargetRow) : SpellInfo × Bool → Prop where
  | nowhere (none_ : ∀ k : Fin maxSpellEffects, row.sourceGroup.testBit k = false) :
      Added spellInfo row (spellInfo, true)
  | overlapping (i : Fin maxSpellEffects) (list : Nat) (first : First spellInfo row.sourceGroup i)
      (filled : spellInfo.implicitTargetConditions i = some list)
      (differs : row.sourceGroup ≠ spellInfo.sharedMask i) :
      Added spellInfo row (spellInfo, false)
  | shared (i : Fin maxSpellEffects) (list : Nat) (first : First spellInfo row.sourceGroup i)
      (filled : spellInfo.implicitTargetConditions i = some list)
      (same : row.sourceGroup = spellInfo.sharedMask i) :
      Added spellInfo row (spellInfo.push list row.cond, true)
  | new (i : Fin maxSpellEffects) (first : First spellInfo row.sourceGroup i)
      (empty : spellInfo.implicitTargetConditions i = none) :
      Added spellInfo row (spellInfo.assign row, true)

theorem added (spellInfo : SpellInfo) (row : TargetRow) :
    Added spellInfo row (spellInfo.addToSpellImplicitTargetConditions row) := by
  unfold SpellInfo.addToSpellImplicitTargetConditions
  rcases find_first spellInfo row.sourceGroup with ⟨none_, bits⟩ | ⟨i, first, found⟩
  · rw [none_]
    exact .nowhere bits
  simp only [found, find_lowest first.1]
  cases here : spellInfo.implicitTargetConditions i with
  | some list =>
    simp only
    split
    · rename_i differs
      exact .overlapping i list first here differs
    · rename_i same
      exact .shared i list first here (not_not.mp same)
  | none =>
    have assigned : (fun j : Fin maxSpellEffects =>
        if i ≤ j ∧ (spellInfo.sharedMask i &&& row.sourceGroup).testBit j then
          some spellInfo.nextList
        else spellInfo.implicitTargetConditions j) =
        (spellInfo.assign row).implicitTargetConditions := by
      funext j
      apply if_congr _ rfl rfl
      rw [Nat.testBit_and, Bool.and_eq_true, leads_testBit first.1]
      constructor
      · rintro ⟨_, ⟨k, same, eq⟩, inMask⟩
        rw [Fin.ext eq, here] at same
        exact ⟨same, inMask⟩
      · rintro ⟨empty, inMask⟩
        refine ⟨?_, ⟨j, empty.trans here.symm, rfl⟩, inMask⟩
        by_contra above
        exact first.1 j (by omega) (empty.trans here.symm)
    simp only [assigned]
    exact .new i first here

variable {spellInfo : SpellInfo} {row : TargetRow}

/-- The lists that effects point to have been made, and hold conditions of the rows so far. -/
structure Tidy (past : List TargetRow) (spellInfo : SpellInfo) : Prop where
  known : ∀ list, ∀ cond ∈ spellInfo.lists list, ∃ row ∈ past, row.cond = cond
  made : ∀ i list, spellInfo.implicitTargetConditions i = some list → list < spellInfo.nextList

theorem tidy_fresh : Tidy [] .fresh where
  known := fun _ _ none_ => nomatch none_
  made := fun _ _ none_ => nomatch none_

variable {past : List TargetRow}

theorem tidy_add (tidy : Tidy past spellInfo) (row : TargetRow) :
    Tidy (past ++ [row]) (spellInfo.addToSpellImplicitTargetConditions row).1 := by
  have before : ∀ list, ∀ cond ∈ spellInfo.lists list,
      ∃ other ∈ past ++ [row], other.cond = cond := by
    intro list cond there
    obtain ⟨other, old, same⟩ := tidy.known list cond there
    exact ⟨other, mem_append_left _ old, same⟩
  have own : ∃ other ∈ past ++ [row], other.cond = row.cond := ⟨row, by simp, rfl⟩
  have result := added spellInfo row
  generalize spellInfo.addToSpellImplicitTargetConditions row = after at result ⊢
  cases result with
  | nowhere => exact ⟨before, tidy.made⟩
  | overlapping => exact ⟨before, tidy.made⟩
  | shared _ list _ _ _ =>
    refine ⟨fun other cond there => ?_, tidy.made⟩
    simp only [SpellInfo.push] at there
    by_cases here : other = list
    · rw [here, update_self, mem_append, mem_singleton] at there
      rcases there with old | rfl
      · exact before list cond old
      · exact own
    · rw [update_of_ne here] at there
      exact before other cond there
  | new =>
    refine ⟨fun other cond there => ?_, fun i list points => ?_⟩
    · simp only [SpellInfo.assign] at there
      by_cases here : other = spellInfo.nextList
      · rw [here, update_self, mem_singleton] at there
        rw [there]
        exact own
      · rw [update_of_ne here] at there
        exact before other cond there
    · simp only [SpellInfo.assign] at points ⊢
      split at points
      · rw [← Option.some.inj points]
        exact Nat.lt_succ_self _
      · exact Nat.lt_succ_of_lt (tidy.made i list points)

theorem contains_other (tidy : Tidy past spellInfo) {cond : Nat}
    (other : cond ≠ row.cond) (i : Fin maxSpellEffects) :
    (spellInfo.addToSpellImplicitTargetConditions row).1.Contains cond i ↔
      spellInfo.Contains cond i := by
  have result := added spellInfo row
  generalize spellInfo.addToSpellImplicitTargetConditions row = after at result ⊢
  cases result with
  | nowhere => rfl
  | overlapping => rfl
  | shared _ list _ _ _ =>
    unfold SpellInfo.Contains SpellInfo.push
    refine exists_congr fun at_ => and_congr_right fun _ => ?_
    by_cases here : at_ = list
    · simp [here, other]
    · simp [update_of_ne here]
  | new =>
    unfold SpellInfo.Contains SpellInfo.assign
    simp only
    split
    · rename_i assigned
      simp [assigned.1, other]
    refine exists_congr fun list => and_congr_right fun points => ?_
    have apart : list ≠ spellInfo.nextList := Nat.ne_of_lt (tidy.made i list points)
    rw [update_of_ne apart]

/-- A row meets the effects without a list first, and others that have one. -/
def Splits (spellInfo : SpellInfo) (mask : Nat) : Prop :=
  ∃ i, First spellInfo mask i ∧ spellInfo.implicitTargetConditions i = none ∧
    ∃ k : Fin maxSpellEffects, mask.testBit k = true ∧ spellInfo.implicitTargetConditions k ≠ none

theorem First.unique {mask : Nat} {i j : Fin maxSpellEffects} (first : First spellInfo mask i)
    (other : First spellInfo mask j) : i = j := by
  rcases lt_trichotomy i j with below | same | above
  · obtain ⟨k, inClass, inMask⟩ := first.2.1
    rw [other.2.2 i below first.1 k inClass] at inMask
    cases inMask
  · exact same
  obtain ⟨k, inClass, inMask⟩ := other.2.1
  rw [first.2.2 j above other.1 k inClass] at inMask
  cases inMask

theorem not_splits_of_filled {mask : Nat} {i : Fin maxSpellEffects} {list : Nat}
    (first : First spellInfo mask i) (filled : spellInfo.implicitTargetConditions i = some list) :
    ¬ Splits spellInfo mask := by
  rintro ⟨j, other, empty, _⟩
  rw [← first.unique other, filled] at empty
  cases empty

/-- A condition that is taken reaches exactly the effects of its mask when the row is not split. -/
theorem contains_own (tidy : Tidy past spellInfo) (absent : ∀ other ∈ past, other.cond ≠ row.cond)
    (accepted : (spellInfo.addToSpellImplicitTargetConditions row).2 = true) :
    (∀ i, (spellInfo.addToSpellImplicitTargetConditions row).1.Contains row.cond i ↔
      row.sourceGroup.testBit i = true) ↔ ¬ Splits spellInfo row.sourceGroup := by
  have notYet : ∀ list, row.cond ∉ spellInfo.lists list := by
    intro list there
    obtain ⟨other, old, same⟩ := tidy.known list _ there
    exact absent other old same
  revert accepted
  have result := added spellInfo row
  generalize spellInfo.addToSpellImplicitTargetConditions row = after at result ⊢
  cases result with
  | nowhere none_ =>
    intro _
    refine iff_of_true (fun i => ?_) ?_
    · rw [none_ i]
      exact iff_of_false (fun ⟨list, _, there⟩ => notYet list there) (by decide)
    · rintro ⟨i, first, _⟩
      obtain ⟨k, _, inMask⟩ := first.2.1
      rw [none_ k] at inMask
      cases inMask
  | overlapping => exact fun no => nomatch no
  | shared i list first filled same =>
    intro _
    refine iff_of_true (fun j => ?_) (not_splits_of_filled first filled)
    have inClass : row.sourceGroup.testBit j = true ↔
        spellInfo.implicitTargetConditions j = some list := by
      rw [same, leads_testBit first.1, filled]
      exact ⟨fun ⟨k, points, eq⟩ => Fin.ext eq ▸ points, fun points => ⟨j, points, rfl⟩⟩
    rw [inClass]
    unfold SpellInfo.Contains SpellInfo.push
    simp only
    constructor
    · rintro ⟨at_, points, there⟩
      by_cases here : at_ = list
      · exact here ▸ points
      · rw [update_of_ne here] at there
        exact absurd there (notYet at_)
    · intro points
      exact ⟨list, points, by simp⟩
  | new i first empty =>
    intro _
    have contains : ∀ j, (spellInfo.assign row).Contains row.cond j ↔
        spellInfo.implicitTargetConditions j = none ∧ row.sourceGroup.testBit j = true := by
      intro j
      unfold SpellInfo.Contains SpellInfo.assign
      simp only
      split
      · rename_i assigned
        simp [assigned]
      rename_i kept
      refine iff_of_false ?_ kept
      rintro ⟨list, points, there⟩
      rw [update_of_ne (Nat.ne_of_lt (tidy.made j list points))] at there
      exact notYet list there
    simp only [contains, and_iff_right_iff_imp]
    constructor
    · rintro all ⟨_, _, _, k, inMask, filled⟩
      exact filled (all k inMask)
    · intro whole j inMask
      by_contra filled
      exact whole ⟨i, first, empty, j, inMask, filled⟩

theorem refused (no : (spellInfo.addToSpellImplicitTargetConditions row).2 = false) :
    (spellInfo.addToSpellImplicitTargetConditions row).1 = spellInfo ∧
      ¬ Splits spellInfo row.sourceGroup := by
  revert no
  have result := added spellInfo row
  generalize spellInfo.addToSpellImplicitTargetConditions row = after at result ⊢
  cases result with
  | nowhere => exact fun no => nomatch no
  | overlapping _ _ first filled _ => exact fun _ => ⟨rfl, not_splits_of_filled first filled⟩
  | shared => exact fun no => nomatch no
  | new => exact fun no => nomatch no

def steps (spellInfo : SpellInfo) (rows : List TargetRow) :
    List (Run.Taken SpellInfo TargetRow Bool) :=
  Run.trace SpellInfo.addToSpellImplicitTargetConditions spellInfo rows

def load (spellInfo : SpellInfo) (rows : List TargetRow) : SpellInfo :=
  Run.final SpellInfo.addToSpellImplicitTargetConditions spellInfo rows

variable {rows : List TargetRow}

theorem load_contains_other (tidy : Tidy past spellInfo) {cond : Nat}
    (other : ∀ row ∈ rows, row.cond ≠ cond) (i : Fin maxSpellEffects) :
    (load spellInfo rows).Contains cond i ↔ spellInfo.Contains cond i := by
  induction rows generalizing spellInfo past with
  | nil => rfl
  | cons row rows ih =>
    have stays := ih (tidy_add tidy row) fun later there => other later (mem_cons_of_mem _ there)
    exact stays.trans (contains_other tidy (other row mem_cons_self).symm i)

/-- Conditions that were taken reach exactly the effects of their masks, and the other rows change
nothing. -/
def ReachesMasks (spellInfo : SpellInfo) (rows : List TargetRow) : Prop :=
  ∀ t ∈ steps spellInfo rows,
    (t.out = true → ∀ i : Fin maxSpellEffects,
      (load spellInfo rows).Contains t.input.cond i ↔ t.input.sourceGroup.testBit i = true) ∧
    (t.out = false → t.after = t.before)

theorem reachesMasks_iff (tidy : Tidy past spellInfo)
    (distinct : ((past ++ rows).map (·.cond)).Nodup) :
    ReachesMasks spellInfo rows ↔
      ∀ t ∈ steps spellInfo rows, ¬ Splits t.before t.input.sourceGroup := by
  induction rows generalizing spellInfo past with
  | nil => simp [ReachesMasks, steps, Run.trace]
  | cons row rows ih =>
    have later := ih (tidy_add tidy row) (by simpa using distinct)
    have apart : (∀ other ∈ past, other.cond ≠ row.cond) ∧
        ∀ other ∈ rows, other.cond ≠ row.cond := by
      rw [map_append, nodup_append] at distinct
      obtain ⟨_, rest, differ⟩ := distinct
      rw [map_cons, nodup_cons] at rest
      constructor
      · intro other old
        exact differ _ (mem_map_of_mem old) _ (by simp)
      · intro other there same
        exact rest.1 (same ▸ mem_map_of_mem there)
    show (∀ t ∈ Run.take _ spellInfo row :: steps _ rows, _) ↔
      ∀ t ∈ Run.take _ spellInfo row :: steps _ rows, _
    rw [forall_mem_cons, forall_mem_cons]
    refine and_congr ?_ later
    simp only [Run.take_out, Run.take_input, Run.take_after, Run.take_before]
    have stays : ∀ i, (load (spellInfo.addToSpellImplicitTargetConditions row).1 rows).Contains
        row.cond i ↔ (spellInfo.addToSpellImplicitTargetConditions row).1.Contains row.cond i :=
      load_contains_other (tidy_add tidy row) apart.2
    cases accepted : (spellInfo.addToSpellImplicitTargetConditions row).2 with
    | true =>
      rw [← contains_own tidy apart.1 accepted]
      simp only [forall_const, Bool.true_eq_false, false_implies, and_true]
      exact forall_congr' fun i => iff_congr (stays i) Iff.rfl
    | false =>
      obtain ⟨same, whole⟩ := refused accepted
      simp [same, whole]

abbrev maxEffectMask : Nat := 7

/-- A mask with effects, and with bits of none. -/
def Stray (mask : Nat) : Prop :=
  (∃ k : Fin maxSpellEffects, mask.testBit k = true) ∧ maxEffectMask < mask

/-- The masks of rows do not overlap, or are equal. -/
def Compatible (rows : List TargetRow) : Prop :=
  rows.Pairwise fun a b => a.sourceGroup &&& b.sourceGroup = 0 ∨ a.sourceGroup = b.sourceGroup

/-- No stray mask occurs twice. -/
def StrayOnce (rows : List TargetRow) : Prop :=
  rows.Pairwise fun a b => a.sourceGroup = b.sourceGroup → ¬ Stray a.sourceGroup

def Taken (rows : List TargetRow) (row : TargetRow) : Prop :=
  ∃ t ∈ steps .fresh rows, t.input = row ∧ t.out = true

/-- The rows that are taken do not depend on the order, where masks do not overlap or are equal. -/
def OrderFree (rows : List TargetRow) : Prop :=
  Compatible rows → ∀ order, order.Perm rows → ∀ row, Taken order row ↔ Taken rows row

theorem testBit_of_le {mask k : Nat} (small : mask ≤ maxEffectMask) (bit : mask.testBit k = true) :
    k < maxSpellEffects := by
  by_contra above
  have bound : mask < 2 ^ maxSpellEffects := Nat.lt_succ_of_le small
  have large : mask < 2 ^ k :=
    Nat.lt_of_lt_of_le bound (Nat.pow_le_pow_right (by decide) (Nat.le_of_not_lt above))
  rw [Nat.testBit_lt_two_pow large] at bit
  cases bit

theorem sharedMask_le {i : Fin maxSpellEffects} (leads : Leads spellInfo i) :
    spellInfo.sharedMask i ≤ maxEffectMask := by
  apply Nat.le_of_lt_succ
  show spellInfo.sharedMask i < 2 ^ maxSpellEffects
  apply Nat.lt_pow_two_of_testBit
  intro k above
  rw [Bool.eq_false_iff]
  intro bit
  obtain ⟨j, _, rfl⟩ := (leads_testBit leads k).mp bit
  exact absurd j.isLt (Nat.not_lt.mpr above)

/-- The classes of effects with a list are the effects of the rows so far. -/
def Filled (past : List TargetRow) (spellInfo : SpellInfo) : Prop :=
  ∀ i, spellInfo.implicitTargetConditions i ≠ none → ∃ row ∈ past, ∀ k : Fin maxSpellEffects,
    spellInfo.implicitTargetConditions k = spellInfo.implicitTargetConditions i ↔
      row.sourceGroup.testBit k = true

theorem and_ne_zero_of_testBit {a b k : Nat} (inA : a.testBit k = true) (inB : b.testBit k = true) :
    a &&& b ≠ 0 := by
  intro none_
  have bit : (a &&& b).testBit k = true := by
    rw [Nat.testBit_and, inA, inB]
    rfl
  rw [none_, Nat.zero_testBit] at bit
  cases bit

/-- A row that fits to those before it is taken. -/
theorem taken_of_compatible (tidy : Tidy past spellInfo)
    (filled : Filled past spellInfo)
    (fits : ∀ other ∈ past, other.sourceGroup &&& row.sourceGroup = 0 ∨
      other.sourceGroup = row.sourceGroup)
    (once : ∀ other ∈ past, other.sourceGroup = row.sourceGroup → ¬ Stray other.sourceGroup) :
    (spellInfo.addToSpellImplicitTargetConditions row).2 = true ∧
      Filled (past ++ [row]) (spellInfo.addToSpellImplicitTargetConditions row).1 := by
  have before : Filled (past ++ [row]) spellInfo := by
    intro i points
    obtain ⟨other, old, classes⟩ := filled i points
    exact ⟨other, mem_append_left _ old, classes⟩
  -- a class with a list that the row meets is that of a row with the same mask
  have meets : ∀ i, spellInfo.implicitTargetConditions i ≠ none → ∀ k : Fin maxSpellEffects,
      spellInfo.implicitTargetConditions k = spellInfo.implicitTargetConditions i →
      row.sourceGroup.testBit k = true → ¬ Stray row.sourceGroup ∧ ∀ j : Fin maxSpellEffects,
        spellInfo.implicitTargetConditions j = spellInfo.implicitTargetConditions i ↔
          row.sourceGroup.testBit j = true := by
    intro i points k inClass inMask
    obtain ⟨other, old, classes⟩ := filled i points
    have same := (fits other old).resolve_left
      (and_ne_zero_of_testBit ((classes k).mp inClass) inMask)
    exact ⟨same ▸ once other old same, same ▸ classes⟩
  have result := added spellInfo row
  generalize spellInfo.addToSpellImplicitTargetConditions row = after at result ⊢
  cases result with
  | nowhere => exact ⟨rfl, before⟩
  | overlapping i list first points differs =>
    exfalso
    obtain ⟨k, inClass, inMask⟩ := first.2.1
    obtain ⟨proper, classes⟩ := meets i (by simp [points]) k inClass inMask
    have small : row.sourceGroup ≤ maxEffectMask := by
      by_contra large
      exact proper ⟨⟨k, inMask⟩, by omega⟩
    apply differs
    apply Nat.eq_of_testBit_eq
    intro bit
    rw [Bool.eq_iff_iff, leads_testBit first.1]
    constructor
    · intro inMask
      have effect := testBit_of_le small inMask
      exact ⟨⟨bit, effect⟩, (classes ⟨bit, effect⟩).mpr inMask, rfl⟩
    · rintro ⟨j, inClass, rfl⟩
      exact (classes j).mp inClass
  | shared => exact ⟨rfl, before⟩
  | new i first empty =>
    refine ⟨rfl, fun j points => ?_⟩
    have apart : ∀ k list, spellInfo.implicitTargetConditions k = some list →
        list ≠ spellInfo.nextList := fun k list here => Nat.ne_of_lt (tidy.made k list here)
    -- no effect of the row has a list
    have clear : ∀ k : Fin maxSpellEffects, row.sourceGroup.testBit k = true →
        spellInfo.implicitTargetConditions k = none := by
      intro k inMask
      by_contra full
      obtain ⟨_, classes⟩ := meets k full k rfl inMask
      obtain ⟨other, inClass, otherMask⟩ := first.2.1
      rw [← (classes other).mpr otherMask, inClass, empty] at full
      exact full rfl
    simp only [SpellInfo.assign] at points ⊢
    by_cases assigned : spellInfo.implicitTargetConditions j = none ∧
        row.sourceGroup.testBit j = true
    · refine ⟨row, by simp, fun k => ?_⟩
      rw [if_pos assigned]
      constructor
      · intro same
        split at same
        · rename_i here
          exact here.2
        · exact absurd rfl (apart k _ same)
      · intro inMask
        rw [if_pos ⟨clear k inMask, inMask⟩]
    · rw [if_neg assigned] at points
      obtain ⟨other, old, classes⟩ := filled j points
      refine ⟨other, mem_append_left _ old, fun k => ?_⟩
      rw [if_neg assigned, ← classes k]
      obtain ⟨list, here⟩ := Option.ne_none_iff_exists'.mp points
      split
      · rename_i new
        rw [here, new.1]
        simp [(apart j list here).symm]
      · rfl

theorem all_taken (tidy : Tidy past spellInfo)
    (filled : Filled past spellInfo) (compatible : Compatible (past ++ rows))
    (once : StrayOnce (past ++ rows)) : ∀ t ∈ steps spellInfo rows, t.out = true := by
  induction rows generalizing spellInfo past with
  | nil => intro t none_; cases none_
  | cons row rows ih =>
    have pairs : ∀ other ∈ past, (other.sourceGroup &&& row.sourceGroup = 0 ∨
        other.sourceGroup = row.sourceGroup) ∧
        (other.sourceGroup = row.sourceGroup → ¬ Stray other.sourceGroup) := by
      intro other old
      exact ⟨(pairwise_append.mp compatible).2.2 other old row (by simp),
        (pairwise_append.mp once).2.2 other old row (by simp)⟩
    obtain ⟨taken, next⟩ := taken_of_compatible tidy filled (fun other old => (pairs other old).1)
      fun other old => (pairs other old).2
    have later := ih (tidy_add tidy row) next (by simpa using compatible) (by simpa using once)
    exact forall_mem_cons.mpr ⟨taken, later⟩

theorem filled_fresh : Filled [] .fresh := fun _ points => absurd rfl points

theorem taken_iff (all : ∀ t ∈ steps .fresh rows, t.out = true)
    (row : TargetRow) : Taken rows row ↔ row ∈ rows := by
  constructor
  · rintro ⟨t, there, rfl, _⟩
    exact Run.input_mem _ _ there
  · intro there
    obtain ⟨before, after, rfl⟩ := append_of_mem there
    refine ⟨Run.take SpellInfo.addToSpellImplicitTargetConditions (load .fresh before) row,
      ?_, rfl, ?_⟩
    · unfold steps
      rw [Run.trace_append]
      exact mem_append_right _ mem_cons_self
    · apply all
      unfold steps
      rw [Run.trace_append]
      exact mem_append_right _ mem_cons_self

theorem Compatible.perm {order : List TargetRow} (compatible : Compatible rows)
    (perm : order.Perm rows) : Compatible order := by
  apply (perm.pairwise_iff _).mpr compatible
  rintro a b (apart | same)
  · exact Or.inl (by rw [Nat.and_comm]; exact apart)
  · exact Or.inr same.symm

theorem StrayOnce.perm {order : List TargetRow} (once : StrayOnce rows)
    (perm : order.Perm rows) : StrayOnce order := by
  apply (perm.pairwise_iff _).mpr once
  intro a b different same
  rw [same]
  exact different same.symm

theorem add_fresh (row : TargetRow) :
    (SpellInfo.fresh.addToSpellImplicitTargetConditions row).2 = true ∧
      ∀ k : Fin maxSpellEffects, row.sourceGroup.testBit k = true →
        (SpellInfo.fresh.addToSpellImplicitTargetConditions row).1.implicitTargetConditions k ≠
          none := by
  have result := added .fresh row
  generalize SpellInfo.fresh.addToSpellImplicitTargetConditions row = after at result ⊢
  cases result with
  | nowhere none_ =>
    refine ⟨rfl, fun k inMask => ?_⟩
    rw [none_ k] at inMask
    cases inMask
  | overlapping _ _ _ filled _ => cases filled
  | shared _ _ _ filled _ => cases filled
  | new =>
    refine ⟨rfl, fun k inMask => ?_⟩
    simp [SpellInfo.assign, SpellInfo.fresh, inMask]

theorem stray_refused (stray : Stray row.sourceGroup)
    (full : ∀ k : Fin maxSpellEffects, row.sourceGroup.testBit k = true →
      spellInfo.implicitTargetConditions k ≠ none) :
    (spellInfo.addToSpellImplicitTargetConditions row).2 = false := by
  have result := added spellInfo row
  generalize spellInfo.addToSpellImplicitTargetConditions row = after at result ⊢
  cases result with
  | nowhere none_ =>
    obtain ⟨k, inMask⟩ := stray.1
    rw [none_ k] at inMask
    cases inMask
  | overlapping => rfl
  | shared i _ first _ same =>
    have small := sharedMask_le first.1
    rw [← same] at small
    exact absurd stray.2 (Nat.not_lt.mpr small)
  | new i first empty =>
    obtain ⟨k, inClass, inMask⟩ := first.2.1
    exact absurd (inClass.trans empty) (full k inMask)

theorem stray_first {a b : TargetRow} {rest : List TargetRow} (same : a.sourceGroup = b.sourceGroup)
    (stray : Stray a.sourceGroup) (distinct : (a :: b :: rest).Nodup) :
    Taken (a :: b :: rest) a ∧ ¬ Taken (a :: b :: rest) b := by
  obtain ⟨taken, full⟩ := add_fresh a
  rw [same] at stray full
  constructor
  · exact ⟨Run.take _ .fresh a, mem_cons_self, rfl, taken⟩
  · rintro ⟨t, there, isB, accepted⟩
    rcases mem_cons.mp there with rfl | there
    · rw [Run.take_input] at isB
      simp [isB] at distinct
    rcases mem_cons.mp there with rfl | there
    · rw [Run.take_out, stray_refused stray full] at accepted
      cases accepted
    have inRest := Run.input_mem _ _ there
    rw [isB] at inRest
    simp [inRest] at distinct

theorem orderFree_iff (distinct : rows.Nodup) :
    OrderFree rows ↔ (Compatible rows → StrayOnce rows) := by
  constructor
  · intro free compatible
    apply distinct.pairwise_of_forall_ne
    intro a inRows b alsoIn different same stray
    obtain ⟨rest, split⟩ : ∃ rest, (a :: b :: rest).Perm rows := by
      refine ⟨(rows.erase a).erase b, ?_⟩
      have alsoLeft : b ∈ rows.erase a := (mem_erase_of_ne different.symm).mpr alsoIn
      exact ((perm_cons_erase alsoLeft).symm.cons a).trans (perm_cons_erase inRows).symm
    have swapped : (b :: a :: rest).Perm rows := (List.Perm.swap a b rest).trans split
    have late := (stray_first same stray (split.nodup_iff.mpr distinct)).2
    have early := (stray_first same.symm (same ▸ stray) (swapped.nodup_iff.mpr distinct)).1
    rw [free compatible _ split] at late
    rw [free compatible _ swapped] at early
    exact late early
  · intro proper compatible order perm row
    have once := proper compatible
    have all : ∀ {rows : List TargetRow}, Compatible rows → StrayOnce rows →
        ∀ t ∈ steps .fresh rows, t.out = true :=
      fun compatible once => all_taken tidy_fresh filled_fresh compatible once
    rw [taken_iff (all compatible once),
      taken_iff (all (compatible.perm perm) (once.perm perm)), perm.mem_iff]

/-- Conditions reach exactly the effects of their masks, independently of the order of the rows,
exactly when no row meets the effects without a list first and others with one, and no stray mask
occurs twice among masks that do not overlap. -/
theorem implicit_targets_iff (rows : List TargetRow) (distinct : (rows.map (·.cond)).Nodup) :
    (ReachesMasks .fresh rows ∧ OrderFree rows) ↔
      ((∀ t ∈ steps .fresh rows, ¬ Splits t.before t.input.sourceGroup) ∧
        (Compatible rows → StrayOnce rows)) := by
  have apart : ((([] : List TargetRow) ++ rows).map (·.cond)).Nodup := by simpa using distinct
  exact and_congr (reachesMasks_iff tidy_fresh apart) (orderFree_iff (distinct.of_map _))

/-- Two masks that share no effect. -/
theorem implicit_targets_iff_apart :
    [TargetRow.mk 0 1, ⟨1, 6⟩].map (·.cond) = [0, 1] ∧
    ((ReachesMasks .fresh [⟨0, 1⟩, ⟨1, 6⟩] ∧ OrderFree [⟨0, 1⟩, ⟨1, 6⟩]) ↔
      ((∀ t ∈ steps .fresh [⟨0, 1⟩, ⟨1, 6⟩], ¬ Splits t.before t.input.sourceGroup) ∧
        (Compatible [⟨0, 1⟩, ⟨1, 6⟩] → StrayOnce [⟨0, 1⟩, ⟨1, 6⟩]))) :=
  ⟨rfl, implicit_targets_iff _ (by decide)⟩

/-- The first row fills the second effect. The second row has the first two, is accepted, and
reaches only the first. -/
theorem overlap_half_applied :
    ¬ ∀ rows : List TargetRow, (rows.map (·.cond)).Nodup →
      (∀ row ∈ rows, row.sourceGroup ≠ 0) → ReachesMasks .fresh rows ∧ OrderFree rows := by
  intro claimed
  have ⟨reaches, _⟩ := claimed [⟨0, 2⟩, ⟨1, 3⟩] (by decide) (by decide)
  have second := reaches _ (mem_cons_of_mem _ mem_cons_self)
  have inside := (second.1 (by decide) 1).mpr (by decide)
  obtain ⟨list, points, there⟩ := inside
  have first : list = 0 := by
    have here : (load .fresh [⟨0, 2⟩, ⟨1, 3⟩]).implicitTargetConditions 1 = some 0 := by decide
    exact Option.some.inj (points.symm.trans here)
  subst first
  revert there
  decide

end OpenWoW.Conditions
