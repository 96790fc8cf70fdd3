import Mathlib.Data.List.Count
import Mathlib.Logic.Function.Basic

/-! Links that are stored on both sides: every holder has slots that may point to a node,
every node lists the holders that point to it. -/
namespace Links

open Function

/-- What the slots point to, and whom the nodes list. -/
@[ext]
structure Book (η κ ν : Type) where
  slot : η → κ → Option ν
  listed : ν → List η

section

variable {η κ ν : Type} [DecidableEq η] [DecidableEq ν]

/-- Only slots of a node's own key point to it, and it lists the holder of each of them
once and nobody else. -/
structure Agree (key : ν → κ) (b : Book η κ ν) : Prop where
  keyed : ∀ h k n, b.slot h k = some n → key n = k
  once : ∀ h n, (b.listed n).count h = if b.slot h (key n) = some n then 1 else 0

namespace Agree

variable {key : ν → κ} {b : Book η κ ν}

theorem mem_listed (agree : Agree key b) (h : η) (n : ν) :
    h ∈ b.listed n ↔ b.slot h (key n) = some n := by
  rw [← List.count_pos_iff, agree.once h n]
  split
  · next points => exact ⟨fun _ => points, fun _ => Nat.one_pos⟩
  · next other => exact ⟨fun positive => absurd positive (Nat.lt_irrefl 0), fun points =>
      absurd points other⟩

theorem listed_of_slot (agree : Agree key b) {h : η} {k : κ} {n : ν}
    (points : b.slot h k = some n) : h ∈ b.listed n := by
  rw [agree.mem_listed, agree.keyed h k n points]
  exact points

theorem slot_ne_of_listed_nil (agree : Agree key b) {n : ν} (empty : b.listed n = []) (h : η)
    (k : κ) : b.slot h k ≠ some n := by
  intro points
  have there := agree.listed_of_slot points
  rw [empty] at there
  exact absurd there List.not_mem_nil

theorem rekey (agree : Agree key b) (n : ν) (empty : b.listed n = []) (k : κ) :
    Agree (Function.update key n k) b where
  keyed := by
    intro h k' n' points
    have other : n' ≠ n := by
      rintro rfl
      exact agree.slot_ne_of_listed_nil empty h k' points
    rw [update_of_ne other]
    exact agree.keyed h k' n' points
  once := by
    intro h n'
    by_cases same : n' = n
    · subst same
      rw [empty, if_neg (agree.slot_ne_of_listed_nil empty h _)]
      rfl
    · rw [update_of_ne same]
      exact agree.once h n'

end Agree

variable [DecidableEq κ]

namespace Book

/-- The link of a slot is taken away on both sides. -/
def cut (b : Book η κ ν) (h : η) (k : κ) : Book η κ ν where
  slot := Function.update b.slot h (Function.update (b.slot h) k none)
  listed := fun n => if b.slot h k = some n then (b.listed n).filter (fun x => x ≠ h) else b.listed n

/-- A slot is pointed to a node, and the node lists the holder. -/
def tie (b : Book η κ ν) (h : η) (k : κ) (n : ν) : Book η κ ν where
  slot := Function.update b.slot h (Function.update (b.slot h) k (some n))
  listed := Function.update b.listed n (b.listed n ++ [h])

omit [DecidableEq ν] in
theorem slot_update (slot : η → κ → Option ν) (h h' : η) (k k' : κ) (to? : Option ν) :
    Function.update slot h (Function.update (slot h) k to?) h' k' =
      if h' = h ∧ k' = k then to? else slot h' k' := by
  by_cases same : h' = h
  · subst same
    by_cases key : k' = k
    · subst key
      simp
    · simp [key]
  · simp [same]

theorem cut_slot (b : Book η κ ν) (h h' : η) (k k' : κ) :
    (b.cut h k).slot h' k' = if h' = h ∧ k' = k then none else b.slot h' k' :=
  slot_update b.slot h h' k k' none

theorem tie_slot (b : Book η κ ν) (h h' : η) (k k' : κ) (n : ν) :
    (b.tie h k n).slot h' k' = if h' = h ∧ k' = k then some n else b.slot h' k' :=
  slot_update b.slot h h' k k' (some n)

theorem cut_listed_of_ne {b : Book η κ ν} (h : η) (k : κ) (n : ν) (other : b.slot h k ≠ some n) :
    (b.cut h k).listed n = b.listed n := if_neg other

end Book

namespace Agree

variable {key : ν → κ} {b : Book η κ ν}

theorem cut (agree : Agree key b) (h : η) (k : κ) : Agree key (b.cut h k) where
  keyed := by
    intro h' k' n points
    rw [Book.cut_slot] at points
    split at points
    · cases points
    · exact agree.keyed h' k' n points
  once := by
    intro h' n
    have before := agree.once h' n
    rw [Book.cut_slot]
    by_cases points : b.slot h k = some n
    · have own := agree.keyed h k n points
      have left : (b.cut h k).listed n = (b.listed n).filter fun x => x ≠ h := if_pos points
      rw [left]
      by_cases same : h' = h
      · subst same
        have gone : h' ∉ (b.listed n).filter fun x => x ≠ h' := by simp
        rw [List.count_eq_zero_of_not_mem gone]
        simp [own]
      have kept : ((b.listed n).filter fun x => x ≠ h).count h' = (b.listed n).count h' :=
        List.count_filter (decide_eq_true same)
      have slot : ¬ (h' = h ∧ key n = k) := fun both => same both.1
      rw [kept, before, if_neg slot]
    · rw [Book.cut_listed_of_ne h k n points, before]
      by_cases both : h' = h ∧ key n = k
      · obtain ⟨rfl, rfl⟩ := both
        simp [points]
      · rw [if_neg both]

theorem tie (agree : Agree key b) (h : η) (n : ν) (empty : b.slot h (key n) = none) :
    Agree key (b.tie h (key n) n) where
  keyed := by
    intro h' k' n' points
    rw [Book.tie_slot] at points
    split at points
    · rename_i both
      obtain rfl := Option.some.inj points
      exact both.2.symm
    · exact agree.keyed h' k' n' points
  once := by
    intro h' n'
    have before := agree.once h' n'
    rw [Book.tie_slot]
    by_cases same : n' = n
    · subst same
      have longer : (b.tie h (key n') n').listed n' = b.listed n' ++ [h] :=
        update_self n' _ _
      rw [longer, List.count_append, before]
      by_cases who : h' = h
      · subst who
        simp [empty]
      · simp [who, Ne.symm who]
    · have untouched : (b.tie h (key n) n).listed n' = b.listed n' :=
        update_of_ne same _ _
      rw [untouched, before]
      by_cases both : h' = h ∧ key n' = key n
      · obtain ⟨rfl, own⟩ := both
        rw [own, empty]
        simp [Ne.symm same]
      · rw [if_neg both]

end Agree

end

end Links
