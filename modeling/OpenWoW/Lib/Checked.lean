import Mathlib.Algebra.Order.Group.Int
import Mathlib.Algebra.Order.Ring.Int
import Mathlib.Tactic.Ring

/-- What a machine computes: no value after an undefined operation, and whether an unsigned
operation wrapped around. -/
structure Checked (α : Type) where
  value : Option α
  wrapped : Bool
  deriving DecidableEq

namespace Checked

variable {α β : Type}

instance : Monad Checked where
  pure a := ⟨some a, false⟩
  bind m next :=
    match m.value with
    | none => ⟨none, m.wrapped⟩
    | some a => ⟨(next a).value, m.wrapped || (next a).wrapped⟩

@[simp] theorem value_pure (a : α) : (pure a : Checked α).value = some a := rfl

@[simp] theorem value_bind (m : Checked α) (next : α → Checked β) :
    (m >>= next).value = m.value.bind fun a => (next a).value := by
  obtain ⟨value, wrapped⟩ := m
  cases value <;> rfl

/-- An unsigned operation of `width` bits with the exact result `x`. -/
def unsigned (width : Nat) (x : Int) : Checked Nat :=
  ⟨some (x % 2 ^ width).toNat, decide ¬ (0 ≤ x ∧ x < 2 ^ width)⟩

/-- A signed operation of 64 bits: an overflow is undefined. -/
def signed (x : Int) : Checked Int :=
  ⟨if -2 ^ 63 ≤ x ∧ x < 2 ^ 63 then some x else none, false⟩

/-- A signed operation of `width` bits: an overflow is undefined. -/
def int (width : Nat) (x : Int) : Checked Int :=
  ⟨if -2 ^ (width - 1) ≤ x ∧ x < 2 ^ (width - 1) then some x else none, false⟩

/-- `a % b`, rounded towards zero. -/
def remainder (a b : Int) : Checked Int := ⟨if b = 0 then none else some (a.tmod b), false⟩

/-- The machine computes `a`, and nothing wraps around. -/
def Exact (m : Checked α) (a : α) : Prop := m = ⟨some a, false⟩

theorem exact_pure {a b : α} : Exact (pure a) b ↔ a = b := by
  change (⟨some a, false⟩ : Checked α) = ⟨some b, false⟩ ↔ _
  simp

theorem exact_bind {m : Checked α} {next : α → Checked β} {b : β} :
    Exact (m >>= next) b ↔ ∃ a, Exact m a ∧ Exact (next a) b := by
  obtain ⟨value, wrapped⟩ := m
  change (match value with
    | none => (⟨none, wrapped⟩ : Checked β)
    | some a => ⟨(next a).value, wrapped || (next a).wrapped⟩) = _ ↔ _
  cases value with
  | none => simp [Exact]
  | some a =>
    cases later : next a with
    | mk value again => cases wrapped <;> simp [Exact, later]

theorem exact_unsigned {width : Nat} {x : Int} {n : Nat} :
    Exact (unsigned width x) n ↔ x = n ∧ x < 2 ^ width := by
  unfold Exact unsigned
  simp only [Checked.mk.injEq, Option.some.injEq, decide_eq_false_iff_not, not_not]
  constructor
  · rintro ⟨value, lower, upper⟩
    rw [Int.emod_eq_of_lt lower upper] at value
    exact ⟨by omega, upper⟩
  · rintro ⟨rfl, upper⟩
    refine ⟨?_, Int.natCast_nonneg n, upper⟩
    rw [Int.emod_eq_of_lt (Int.natCast_nonneg n) upper, Int.toNat_natCast]

theorem exact_int {width : Nat} {x y : Int} :
    Exact (int width x) y ↔ (-2 ^ (width - 1) ≤ x ∧ x < 2 ^ (width - 1)) ∧ x = y := by
  unfold Exact int
  by_cases fits : -2 ^ (width - 1) ≤ x ∧ x < 2 ^ (width - 1)
  · rw [if_pos fits]
    constructor
    · intro same
      cases same
      exact ⟨fits, rfl⟩
    · rintro ⟨_, rfl⟩
      rfl
  · rw [if_neg fits]
    exact iff_of_false nofun fun both => fits both.1

theorem exact_signed {x y : Int} :
    Exact (signed x) y ↔ (-2 ^ 63 ≤ x ∧ x < 2 ^ 63) ∧ x = y :=
  @exact_int 64 x y

theorem exact_remainder {a b r : Int} : Exact (remainder a b) r ↔ b ≠ 0 ∧ a.tmod b = r := by
  unfold Exact remainder
  by_cases zero : b = 0
  · rw [if_pos zero]
    exact iff_of_false nofun fun both => both.1 zero
  rw [if_neg zero]
  constructor
  · intro same
    cases same
    exact ⟨zero, rfl⟩
  · rintro ⟨_, rfl⟩
    rfl

theorem Exact.value {m : Checked α} {a : α} (exact : Exact m a) : m.value = some a :=
  congrArg Checked.value exact

end Checked
