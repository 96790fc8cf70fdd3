import Mathlib.Algebra.BigOperators.Group.List.Basic
import Mathlib.Algebra.Order.BigOperators.Group.List
import Mathlib.Algebra.Order.Ring.Nat

/-! Lists whose elements are told apart by a key, and requests that name the elements by
their keys: how much is asked of each element, and how the demands add up. -/
namespace Keyed

open List

section

variable {α κ : Type} [DecidableEq κ] (key : α → κ)

theorem sum_single {as : List α} (unique : (as.map key).Nodup) (a : α) (here : a ∈ as)
    (f : α → Nat) : (as.map fun x => if key x = key a then f x else 0).sum = f a := by
  induction as with
  | nil => cases here
  | cons x xs ih =>
    rw [map_cons, nodup_cons] at unique
    have others : ∀ y ∈ xs, key y ≠ key x :=
      fun y there same => unique.1 (mem_map.mpr ⟨y, there, same⟩)
    rcases mem_cons.mp here with rfl | later
    · have none : (xs.map fun y => if key y = key a then f y else 0).sum = 0 := by
        apply sum_eq_zero
        intro n mem
        obtain ⟨y, there, rfl⟩ := mem_map.mp mem
        exact if_neg (others y there)
      simp [none]
    · have ne : key x ≠ key a := fun same => others a later same.symm
      simp [ne, ih unique.2 later]

theorem eq_of_sum_le {as : List α} (f g : α → Nat) (le : ∀ a ∈ as, f a ≤ g a)
    (sums : (as.map g).sum ≤ (as.map f).sum) : ∀ a ∈ as, f a = g a := by
  intro a here
  by_contra differ
  have less : f a < g a := lt_of_le_of_ne (le a here) differ
  exact absurd (sum_lt_sum f g le ⟨a, here, less⟩) (by omega)

/-- How much a list of demands asks of the element with a key. -/
def demand (demands : List (κ × Nat)) (k : κ) : Nat :=
  ((demands.filter (·.1 = k)).map (·.2)).sum

@[simp] theorem demand_nil (k : κ) : demand [] k = 0 := rfl

theorem demand_cons (d : κ × Nat) (demands : List (κ × Nat)) (k : κ) :
    demand (d :: demands) k = (if d.1 = k then d.2 else 0) + demand demands k := by
  by_cases same : d.1 = k
  · simp [demand, same]
  · simp [demand, same]

theorem sum_demand {as : List α} (unique : (as.map key).Nodup) (kind : α → Prop)
    [DecidablePred kind] {demands : List (κ × Nat)} (named : κ → α)
    (there : ∀ d ∈ demands, named d.1 ∈ as ∧ key (named d.1) = d.1) :
    (as.map fun a => if kind a then demand demands (key a) else 0).sum =
      (demands.map fun d => if kind (named d.1) then d.2 else 0).sum := by
  induction demands with
  | nil => simp
  | cons d demands ih =>
    have rest := ih fun d' later => there d' (mem_cons_of_mem d later)
    obtain ⟨mem, same⟩ := there d mem_cons_self
    have split : (as.map fun a => if kind a then demand (d :: demands) (key a) else 0) =
        as.map fun a => (if key a = key (named d.1) then (if kind a then d.2 else 0) else 0) +
          (if kind a then demand demands (key a) else 0) := by
      apply map_congr_left
      intro a _
      rw [demand_cons, same]
      by_cases k : kind a
      · by_cases e : key a = d.1
        · simp [k, e]
        · simp [k, e, Ne.symm e]
      · simp [k]
    rw [split, sum_map_add, rest, map_cons, sum_cons, sum_single key unique (named d.1) mem]

end

end Keyed
