import Mathlib.Data.List.FinRange
import Mathlib.Data.Prod.Lex
import Mathlib.Logic.Relation

/-! What a new aura removes from a unit. -/
namespace OpenWoW.Auras

open List Option

/-- An application of an aura on the unit, by its address. It has no remove mode: one is set where
the application leaves the map. -/
structure AuraApplication where
  address : Nat
  /-- The unit is also the owner of the aura. -/
  owned : Bool
  deriving DecidableEq, Repr

/-- What the handlers of a removal do to the auras that are left on the unit. They apply none. -/
structure Handlers where
  /-- In `_UnapplyAura`, before the iterator is set. -/
  unapply : AuraApplication → List AuraApplication → List AuraApplication
  /-- In `Aura::Remove`, where the aura goes from its other targets. -/
  remove : AuraApplication → List AuraApplication → List AuraApplication
  unapply_sublist : ∀ aurApp left, (unapply aurApp left).Sublist left
  remove_sublist : ∀ aurApp left, (remove aurApp left).Sublist left

/-- No handler removes further auras. -/
def Handlers.none : Handlers where
  unapply := fun _ left => left
  remove := fun _ left => left
  unapply_sublist := fun _ _ => List.Sublist.refl _
  remove_sublist := fun _ _ => List.Sublist.refl _

section

variable (canStackWith : AuraApplication → Bool) (handlers : Handlers)

/-- `_UnapplyAura`. The iterator stands at the first of the auras that are left. -/
def unapplyAura (applied : List AuraApplication) (i : Fin applied.length) : List AuraApplication :=
  handlers.unapply applied[i] (applied.eraseIdx i)

theorem unapplyAura_length (applied : List AuraApplication) (i : Fin applied.length) :
    (unapplyAura handlers applied i).length < applied.length := by
  have left := (handlers.unapply_sublist applied[i] (applied.eraseIdx i)).length_le
  rw [length_eraseIdx_of_lt i.isLt] at left
  unfold unapplyAura
  have inside := i.isLt
  omega

/-- An aura that is removed goes from its other targets if the unit owns it. -/
def release (aurApp : AuraApplication) (left : List AuraApplication) : List AuraApplication :=
  if aurApp.owned then handlers.remove aurApp left else left

theorem release_length (aurApp : AuraApplication) (left : List AuraApplication) :
    (release handlers aurApp left).length ≤ left.length := by
  unfold release
  split
  · exact (handlers.remove_sublist aurApp left).length_le
  · exact Nat.le_refl _

/-- `RemoveAura`. There is no result when the iterator's aura is gone. -/
def removeAura (applied : List AuraApplication) (i : Fin applied.length) :
    Option { after : List AuraApplication // after.length < applied.length } :=
  let left := unapplyAura handlers applied i
  let after := release handlers applied[i] left
  if left.head? = after.head? then
    some ⟨after, Nat.lt_of_le_of_lt (release_length handlers applied[i] left)
      (unapplyAura_length handlers applied i)⟩
  else none

/-- The loop of `_RemoveNoStackAurasDueToAura`, with the position of the iterator. -/
def removeFrom (applied : List AuraApplication) (i : Nat) (remove : Bool) :
    Option (List AuraApplication) :=
  if inside : i < applied.length then
    let start : Fin applied.length :=
      if remove then ⟨0, Nat.lt_of_le_of_lt (Nat.zero_le i) inside⟩ else ⟨i, inside⟩
    if canStackWith applied[start] then removeFrom applied (start + 1) false
    else
      match removeAura handlers applied start with
      | none => none
      | some ⟨[], _⟩ => some []
      | some ⟨first :: rest, _⟩ => removeFrom (first :: rest) 1 true
  else some applied
termination_by (applied.length, if remove then applied.length + 1 else applied.length - i)
decreasing_by
  · apply Prod.Lex.right
    cases remove with
    | true => exact Nat.lt_succ_of_le (Nat.sub_le _ _)
    | false =>
      show applied.length - (i + 1) < applied.length - i
      omega
  · apply Prod.Lex.left
    assumption

def removeNoStackAurasDueToAura (isPassiveStackableWithRanks : Bool)
    (applied : List AuraApplication) : Option (List AuraApplication) :=
  if isPassiveStackableWithRanks then some applied
  else removeFrom canStackWith handlers applied 0 false

end

section

variable {canStackWith : AuraApplication → Bool} {handlers : Handlers}

variable {applied : List AuraApplication}

theorem removeFrom_end {i : Nat} (behind : applied.length ≤ i)
    (remove : Bool) : removeFrom canStackWith handlers applied i remove = some applied := by
  rw [removeFrom, dif_neg (Nat.not_lt.mpr behind)]

theorem removeFrom_pass {i : Nat} (inside : i < applied.length)
    (fits : canStackWith applied[i] = true) :
    removeFrom canStackWith handlers applied i false =
      removeFrom canStackWith handlers applied (i + 1) false := by
  rw [removeFrom, dif_pos inside]
  simp [fits]

theorem removeFrom_again (many : 1 < applied.length) :
    removeFrom canStackWith handlers applied 1 true =
      removeFrom canStackWith handlers applied 0 false := by
  rw [removeFrom, dif_pos many, removeFrom, dif_pos (Nat.lt_trans Nat.zero_lt_one many)]
  rfl

def afterRemoval (canStackWith : AuraApplication → Bool) (handlers : Handlers)
    (left : List AuraApplication) : Option (List AuraApplication) :=
  if 1 < left.length then removeFrom canStackWith handlers left 0 false else some left

theorem removeFrom_remove {i : Nat} (inside : i < applied.length)
    (fails : canStackWith applied[i] = false) :
    removeFrom canStackWith handlers applied i false =
      (removeAura handlers applied ⟨i, inside⟩).bind fun left =>
        afterRemoval canStackWith handlers left := by
  rw [removeFrom, dif_pos inside]
  simp only [Bool.false_eq_true, if_false, Fin.getElem_fin, fails]
  cases removeAura handlers applied ⟨i, inside⟩ with
  | none => rfl
  | some left =>
    obtain ⟨left, shorter⟩ := left
    cases left with
    | nil => rfl
    | cons first rest =>
      show removeFrom canStackWith handlers (first :: rest) 1 true =
        if 1 < (first :: rest).length then _ else _
      split
      · rename_i many
        exact removeFrom_again many
      · rename_i few
        exact removeFrom_end (Nat.not_lt.mp few) true

theorem removeFrom_scan {i : Nat} (inside : i ≤ applied.length)
    (fit : ∀ j, (before : j < i) → canStackWith applied[j] = true) :
    removeFrom canStackWith handlers applied 0 false =
      removeFrom canStackWith handlers applied i false := by
  induction i with
  | zero => rfl
  | succ i ih =>
    rw [ih (Nat.le_of_succ_le inside) fun j before => fit j (Nat.lt_succ_of_lt before),
      removeFrom_pass inside (fit i (Nat.lt_succ_self i))]

structure First (canStackWith : AuraApplication → Bool) (applied : List AuraApplication)
    (i : Fin applied.length) : Prop where
  fails : canStackWith applied[i] = false
  fit : ∀ j < i, canStackWith applied[j] = true

def Removes (canStackWith : AuraApplication → Bool) (handlers : Handlers)
    (applied left : List AuraApplication) : Prop :=
  ∃ i, First canStackWith applied i ∧ (removeAura handlers applied i).map (·.val) = some left

def Lone (canStackWith : AuraApplication → Bool) (left : List AuraApplication) : Prop :=
  ∃ aurApp, left = [aurApp] ∧ canStackWith aurApp = false

/-- A removal leaves the aura that the iterator stands at, and does not leave one aura that cannot
stay. -/
def Clean (canStackWith : AuraApplication → Bool) (handlers : Handlers)
    (applied : List AuraApplication) : Prop :=
  ∀ i, First canStackWith applied i →
    ∃ left, (removeAura handlers applied i).map (·.val) = some left ∧ ¬ Lone canStackWith left

variable {i : Fin applied.length}

theorem First.unique {j : Fin applied.length}
    (first : First canStackWith applied i) (other : First canStackWith applied j) : i = j := by
  rcases lt_trichotomy i j with below | same | above
  · exact absurd (other.fit i below) (by rw [first.fails]; exact Bool.false_ne_true)
  · exact same
  · exact absurd (first.fit j above) (by rw [other.fails]; exact Bool.false_ne_true)

theorem exists_first (some_ : ∃ aurApp ∈ applied, canStackWith aurApp = false) :
    ∃ i, First canStackWith applied i := by
  obtain ⟨aurApp, there, fails⟩ := some_
  obtain ⟨k, inside, here⟩ := getElem_of_mem there
  obtain ⟨i, failsAt, lowest⟩ := (Fin.exists_iff_exists_minimal fun i : Fin applied.length =>
    canStackWith applied[i] = false).mp ⟨⟨k, inside⟩, by rw [← here] at fails; exact fails⟩
  refine ⟨i, failsAt, fun j below => ?_⟩
  simpa using lowest j below

theorem removeFrom_first (first : First canStackWith applied i) :
    removeFrom canStackWith handlers applied 0 false =
      ((removeAura handlers applied i).map (·.val)).bind fun left =>
        afterRemoval canStackWith handlers left := by
  rw [removeFrom_scan (Nat.le_of_lt i.isLt) fun j before => first.fit ⟨j, by omega⟩ before,
    removeFrom_remove i.isLt first.fails]
  cases removeAura handlers applied i <;> rfl

theorem removeFrom_fits (fit : ∀ aurApp ∈ applied, canStackWith aurApp = true) :
    removeFrom canStackWith handlers applied 0 false = some applied := by
  rw [removeFrom_scan (Nat.le_refl _) fun j before => fit _ (getElem_mem before),
    removeFrom_end (Nat.le_refl _)]

theorem removal_length {left : List AuraApplication}
    (removed : (removeAura handlers applied i).map (·.val) = some left) :
    left.length < applied.length := by
  obtain ⟨⟨_, shorter⟩, _, rfl⟩ := map_eq_some_iff.mp removed
  exact shorter

theorem clean_runs_iff {left : List AuraApplication} (first : First canStackWith applied i)
    (removed : (removeAura handlers applied i).map (·.val) = some left) :
    (∀ between, Relation.ReflTransGen (Removes canStackWith handlers) applied between →
      Clean canStackWith handlers between) ↔
    ¬ Lone canStackWith left ∧
      ∀ between, Relation.ReflTransGen (Removes canStackWith handlers) left between →
        Clean canStackWith handlers between := by
  constructor
  · intro runs
    refine ⟨?_, fun between run => runs between (run.head ⟨i, first, removed⟩)⟩
    obtain ⟨other, same, notLone⟩ := runs applied .refl i first
    rw [some.inj (removed.symm.trans same)]
    exact notLone
  · rintro ⟨notLone, runs⟩ between run
    rcases run.cases_head with rfl | ⟨next, ⟨j, also, same⟩, rest⟩
    · intro j also
      rw [← first.unique also]
      exact ⟨left, removed, notLone⟩
    rw [← first.unique also, removed] at same
    rw [← some.inj same] at rest
    exact runs between rest

/-- The loop ends with auras that can all stay exactly when every removal is clean. -/
theorem removeFrom_iff (applied : List AuraApplication) :
    (∃ left, removeFrom canStackWith handlers applied 0 false = some left ∧
      ∀ aurApp ∈ left, canStackWith aurApp = true) ↔
    ∀ between, Relation.ReflTransGen (Removes canStackWith handlers) applied between →
      Clean canStackWith handlers between := by
  induction length : applied.length using Nat.strong_induction_on generalizing applied with
  | _ n ih =>
  by_cases some_ : ∃ aurApp ∈ applied, canStackWith aurApp = false
  · obtain ⟨i, first⟩ := exists_first some_
    rw [removeFrom_first first]
    cases removed : (removeAura handlers applied i).map (·.val) with
    | none =>
      apply iff_of_false
      · rintro ⟨left, none_, _⟩
        cases none_
      · intro runs
        obtain ⟨left, same, _⟩ := runs applied .refl i first
        rw [removed] at same
        cases same
    | some left =>
      have later := ih left.length (length ▸ removal_length removed) left rfl
      rw [clean_runs_iff first removed, ← later, bind_some, afterRemoval]
      split
      · rename_i many
        refine (and_iff_right ?_).symm
        rintro ⟨aurApp, rfl, _⟩
        exact Nat.lt_irrefl _ many
      rename_i few
      constructor
      · rintro ⟨other, same, fit⟩
        rw [← some.inj same] at fit
        refine ⟨?_, left, removeFrom_fits fit, fit⟩
        rintro ⟨aurApp, rfl, fails⟩
        rw [fit aurApp (by simp)] at fails
        cases fails
      · rintro ⟨notLone, _⟩
        refine ⟨left, rfl, fun aurApp there => ?_⟩
        obtain ⟨only, rfl⟩ : ∃ only, left = [only] :=
          length_eq_one_iff.mp (by have := length_pos_of_mem there; omega)
        rw [mem_singleton.mp there]
        by_contra fails
        exact notLone ⟨only, rfl, Bool.eq_false_of_not_eq_true fails⟩
  · have fit : ∀ aurApp ∈ applied, canStackWith aurApp = true := by
      intro aurApp there
      by_contra fails
      exact some_ ⟨aurApp, there, Bool.eq_false_of_not_eq_true fails⟩
    have nothing : ∀ i, ¬ First canStackWith applied i := by
      intro i first
      exact some_ ⟨applied[i], getElem_mem _, first.fails⟩
    refine iff_of_true ⟨applied, removeFrom_fits fit, fit⟩ fun between run => ?_
    rcases run.cases_head with rfl | ⟨_, ⟨i, first, _⟩, _⟩
    · exact fun i first => absurd first (nothing i)
    · exact absurd first (nothing i)

theorem removeAura_none (applied : List AuraApplication) (i : Fin applied.length) :
    (removeAura .none applied i).map (·.val) = some (applied.eraseIdx i) := by
  have stands : release .none applied[i] (unapplyAura .none applied i) =
      unapplyAura .none applied i := ite_self _
  unfold removeAura
  rw [if_pos (congrArg List.head? stands.symm)]
  exact congrArg some stands

theorem filter_eraseIdx (fails : canStackWith applied[i] = false) :
    (applied.eraseIdx i).filter canStackWith = applied.filter canStackWith := by
  have split_ : applied = applied.take i ++ applied[i] :: applied.drop (i + 1) := by
    rw [Fin.getElem_fin, getElem_cons_drop, take_append_drop]
  rw [eraseIdx_eq_take_drop_succ, filter_append]
  have not : ¬ canStackWith applied[i] = true := by
    rw [fails]
    exact Bool.false_ne_true
  conv_rhs => rw [split_, filter_append, filter_cons_of_neg not]

theorem removeFrom_none (stays : ∃ aurApp ∈ applied, canStackWith aurApp = true) :
    removeFrom canStackWith .none applied 0 false = some (applied.filter canStackWith) := by
  induction length : applied.length using Nat.strong_induction_on generalizing applied with
  | _ n ih =>
  by_cases some_ : ∃ aurApp ∈ applied, canStackWith aurApp = false
  · obtain ⟨i, first⟩ := exists_first some_
    have same := filter_eraseIdx first.fails
    have alsoStays : ∃ aurApp ∈ applied.eraseIdx i, canStackWith aurApp = true := by
      obtain ⟨aurApp, there, fits⟩ := stays
      have kept : aurApp ∈ (applied.eraseIdx i).filter canStackWith := by
        rw [same]
        exact mem_filter.mpr ⟨there, fits⟩
      exact ⟨aurApp, (mem_filter.mp kept).1, fits⟩
    rw [removeFrom_first first, removeAura_none, bind_some, afterRemoval, ← same]
    split
    · exact ih _ (length ▸ removal_length (removeAura_none applied i)) alsoStays rfl
    rename_i few
    obtain ⟨aurApp, there, fits⟩ := alsoStays
    obtain ⟨only, lone⟩ : ∃ only, applied.eraseIdx i = [only] :=
      length_eq_one_iff.mp (by have := length_pos_of_mem there; omega)
    rw [lone, mem_singleton] at there
    rw [lone, ← there, filter_singleton, fits]
    rfl
  · have fit : ∀ aurApp ∈ applied, canStackWith aurApp = true := by
      intro aurApp there
      by_contra fails
      exact some_ ⟨aurApp, there, Bool.eq_false_of_not_eq_true fails⟩
    rw [removeFrom_fits fit, filter_eq_self.mpr fit]

theorem removeFrom_one_stays {applied : List AuraApplication}
    (fail : ∀ aurApp ∈ applied, canStackWith aurApp = false) (many : 1 < applied.length) :
    ∃ aurApp, removeFrom canStackWith .none applied 0 false = some [aurApp] := by
  induction length : applied.length using Nat.strong_induction_on generalizing applied with
  | _ n ih =>
  obtain ⟨i, first⟩ := exists_first ⟨applied[0], getElem_mem _, fail _ (getElem_mem (by omega))⟩
  have shorter : (applied.eraseIdx i).length = applied.length - 1 :=
    length_eraseIdx_of_lt i.isLt
  rw [removeFrom_first first, removeAura_none, bind_some, afterRemoval]
  split
  · rename_i still
    have alsoFail : ∀ aurApp ∈ applied.eraseIdx i, canStackWith aurApp = false :=
      fun aurApp there => fail aurApp (mem_of_mem_eraseIdx there)
    exact ih _ (by omega) alsoFail still rfl
  obtain ⟨only, lone⟩ : ∃ only, applied.eraseIdx i = [only] :=
    length_eq_one_iff.mp (by omega)
  exact ⟨only, by rw [lone]⟩

theorem removeFrom_none_iff (applied : List AuraApplication) :
    removeFrom canStackWith .none applied 0 false = some (applied.filter canStackWith) ↔
      applied.length ≤ 1 ∨ ∃ aurApp ∈ applied, canStackWith aurApp = true := by
  by_cases stays : ∃ aurApp ∈ applied, canStackWith aurApp = true
  · exact iff_of_true (removeFrom_none stays) (Or.inr stays)
  have fail : ∀ aurApp ∈ applied, canStackWith aurApp = false := by
    intro aurApp there
    rw [Bool.eq_false_iff]
    exact fun fits => stays ⟨aurApp, there, fits⟩
  have empty : applied.filter canStackWith = [] := by
    rw [filter_eq_nil_iff]
    intro aurApp there
    rw [fail aurApp there]
    exact Bool.false_ne_true
  rw [empty, or_iff_left stays]
  rcases Nat.lt_or_ge 1 applied.length with many | few
  · obtain ⟨aurApp, one⟩ := removeFrom_one_stays fail many
    rw [one]
    exact iff_of_false (by simp) (Nat.not_le.mpr many)
  refine iff_of_true ?_ few
  match applied, few with
  | [], _ => exact removeFrom_end (Nat.le_refl 0) false
  | [aurApp], _ =>
    have first : First canStackWith [aurApp] 0 :=
      ⟨fail aurApp (by simp), fun j below => absurd below (Fin.not_lt_zero j)⟩
    rw [removeFrom_first first, removeAura_none]
    rfl

/-- The loop ends, and leaves only auras that can stay, exactly when no removal takes the aura that
the iterator then stands at, or leaves one aura that cannot stay. If the handlers of a removal remove
nothing else, it leaves exactly those that can stay when there is such an aura, or at most one aura
is applied. -/
theorem no_stack_auras_removed_iff (canStackWith : AuraApplication → Bool) (handlers : Handlers)
    (applied : List AuraApplication) :
    ((∃ left, removeNoStackAurasDueToAura canStackWith handlers false applied = some left ∧
        ∀ aurApp ∈ left, canStackWith aurApp = true) ↔
      ∀ between, Relation.ReflTransGen (Removes canStackWith handlers) applied between →
        Clean canStackWith handlers between) ∧
    (removeNoStackAurasDueToAura canStackWith .none false applied =
        some (applied.filter canStackWith) ↔
      applied.length ≤ 1 ∨ ∃ aurApp ∈ applied, canStackWith aurApp = true) :=
  ⟨removeFrom_iff applied, removeFrom_none_iff applied⟩

/-- Of two auras that cannot stay the second stays. -/
theorem second_aura_stays :
    ¬ ∀ (canStackWith : AuraApplication → Bool) (applied : List AuraApplication),
      ∃ left, removeNoStackAurasDueToAura canStackWith .none false applied = some left ∧
        ∀ aurApp ∈ left, canStackWith aurApp = true := by
  intro claimed
  obtain ⟨aurApp, one⟩ := @removeFrom_one_stays (fun _ => false) [⟨1, true⟩, ⟨2, true⟩]
    (fun _ _ => rfl) (by decide)
  obtain ⟨left, ends, fit⟩ := claimed (fun _ => false) [⟨1, true⟩, ⟨2, true⟩]
  have same : left = [aurApp] := some.inj (ends.symm.trans one)
  rw [same] at fit
  exact Bool.false_ne_true (fit aurApp (by simp))

end

end OpenWoW.Auras
