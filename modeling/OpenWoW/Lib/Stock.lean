import Mathlib.Algebra.Order.BigOperators.Group.List
import Mathlib.Algebra.Order.Ring.Nat
import Mathlib.Logic.Function.Basic

/-! Places that may hold a stack: what all stacks weigh together, and how amounts that land at
places one after another change it. -/
namespace Stock

open List Function

variable {P α : Type}

/-- The weight of what stands at the given places. -/
def total (weigh : α → Nat) (places : List P) (store : P → Option α) : Nat :=
  (places.map fun place => (store place).elim 0 weigh).sum

theorem total_cons (weigh : α → Nat) (place : P) (places : List P) (store : P → Option α) :
    total weigh (place :: places) store =
      (store place).elim 0 weigh + total weigh places store := rfl

theorem total_congr (weigh : α → Nat) {places : List P} (before after : P → Option α)
    (same : ∀ place ∈ places, (after place).elim 0 weigh = (before place).elim 0 weigh) :
    total weigh places after = total weigh places before := by
  unfold total
  congr 1
  exact map_congr_left same

theorem total_mono (weigh : α → Nat) {places : List P} (before after : P → Option α)
    (less : ∀ place ∈ places, (after place).elim 0 weigh ≤ (before place).elim 0 weigh) :
    total weigh places after ≤ total weigh places before :=
  sum_le_sum less

theorem total_one_add_free (places : List P) (store : P → Option α) :
    total (fun _ => 1) places store + places.countP (fun place => (store place).isNone) =
      places.length := by
  induction places with
  | nil => rfl
  | cons place rest ih =>
    rw [total_cons, countP_cons, length_cons]
    cases store place with
    | none =>
      simp only [Option.elim_none, Option.isNone_none, if_true]
      omega
    | some a =>
      simp only [Option.elim_some, Option.isNone_some, Bool.false_eq_true, if_false]
      omega

section

variable [DecidableEq P]

theorem total_update_outside (weigh : α → Nat) {places : List P} (store : P → Option α)
    (place : P) (stack : Option α) (outside : place ∉ places) :
    total weigh places (Function.update store place stack) = total weigh places store := by
  apply total_congr
  intro other counted
  have apart : other ≠ place := fun same => outside (same ▸ counted)
  rw [update_of_ne apart]

theorem total_update (weigh : α → Nat) (places : List P) (store : P → Option α) (place : P)
    (stack : Option α) (distinct : places.Nodup) (here : place ∈ places) :
    total weigh places (Function.update store place stack) + (store place).elim 0 weigh =
      total weigh places store + stack.elim 0 weigh := by
  induction places with
  | nil => cases here
  | cons first rest ih =>
    obtain ⟨fresh, distinct⟩ := nodup_cons.mp distinct
    rw [total_cons, total_cons]
    by_cases same : first = place
    · subst same
      rw [total_update_outside weigh store first stack fresh, update_self]
      omega
    have later : place ∈ rest := (mem_cons.mp here).resolve_left (Ne.symm same)
    have tail := ih distinct later
    rw [update_of_ne same]
    omega

/-- Amounts landing at places one after another, where `lands` says what an amount may make of
the stack it finds. -/
inductive Filled (lands : Option α → Nat → α → Prop) :
    (P → Option α) → List (P × Nat) → (P → Option α) → Prop where
  | nil (store : P → Option α) : Filled lands store [] store
  | cons {store after : P → Option α} {place : P} {amount : Nat} {plan : List (P × Nat)}
      {stack : α} (landed : lands (store place) amount stack)
      (rest : Filled lands (Function.update store place (some stack)) plan after) :
      Filled lands store ((place, amount) :: plan) after

variable {lands : Option α → Nat → α → Prop} {store after : P → Option α}
  {plan : List (P × Nat)}

theorem Filled.total (weigh : α → Nat) (share : Nat → Nat) {places : List P}
    (distinct : places.Nodup) (filled : Filled lands store plan after)
    (inside : ∀ place ∈ plan.map Prod.fst, place ∈ places)
    (adds : ∀ found amount stack, lands found amount stack →
      weigh stack = found.elim 0 weigh + share amount) :
    Stock.total weigh places after =
      Stock.total weigh places store + (plan.map fun put => share put.2).sum := by
  induction filled with
  | nil store => rfl
  | @cons store after place amount plan stack landed rest ih =>
    have counted : place ∈ places := inside place mem_cons_self
    have change := total_update weigh places store place (some stack) distinct counted
    have weight : (some stack).elim 0 weigh = _ := adds _ _ _ landed
    have later := ih fun other member => inside other (mem_cons_of_mem _ member)
    simp only [map_cons, sum_cons]
    omega

theorem Filled.untouched (filled : Filled lands store plan after) (place : P)
    (apart : place ∉ plan.map Prod.fst) : after place = store place := by
  induction filled with
  | nil store => rfl
  | @cons store after first amount plan stack landed rest ih =>
    simp only [map_cons, mem_cons, not_or] at apart
    rw [ih apart.2, update_of_ne apart.1]

theorem Filled.landed (filled : Filled lands store plan after)
    (distinct : (plan.map Prod.fst).Nodup) (place : P) {amount : Nat}
    (planned : (place, amount) ∈ plan) :
    ∃ stack, after place = some stack ∧ lands (store place) amount stack := by
  induction filled with
  | nil store => cases planned
  | @cons store after first n plan stack landed rest ih =>
    obtain ⟨fresh, distinct⟩ := nodup_cons.mp distinct
    rcases mem_cons.mp planned with same | later
    · obtain ⟨rfl, rfl⟩ := Prod.mk.inj same
      exact ⟨stack, by rw [rest.untouched place fresh, update_self], landed⟩
    have apart : place ≠ first := by
      rintro rfl
      exact fresh (mem_map.mpr ⟨_, later, rfl⟩)
    obtain ⟨made, stands, lands⟩ := ih distinct later
    rw [update_of_ne apart] at lands
    exact ⟨made, stands, lands⟩

end

section

variable {K : Type} [DecidableEq K]

/-- What a list of amounts makes up of one kind. -/
def amount (kind : K) (amounts : List (K × Nat)) : Nat :=
  (amounts.map fun put => if put.1 = kind then put.2 else 0).sum

theorem amount_cons (kind : K) (put : K × Nat) (amounts : List (K × Nat)) :
    amount kind (put :: amounts) = (if put.1 = kind then put.2 else 0) + amount kind amounts := rfl

theorem amount_append (kind : K) (first second : List (K × Nat)) :
    amount kind (first ++ second) = amount kind first + amount kind second := by
  simp [amount]

theorem amount_of_absent (kind : K) {amounts : List (K × Nat)}
    (absent : ∀ put ∈ amounts, put.1 ≠ kind) : amount kind amounts = 0 := by
  apply sum_eq_zero
  intro n member
  obtain ⟨put, planned, rfl⟩ := mem_map.mp member
  exact if_neg (absent put planned)

theorem le_amount {amounts : List (K × Nat)} {put : K × Nat} (planned : put ∈ amounts) :
    put.2 ≤ amount put.1 amounts :=
  le_sum_of_mem (mem_map.mpr ⟨put, planned, if_pos rfl⟩)

end

end Stock
