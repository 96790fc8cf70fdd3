import Mathlib.Algebra.Order.Ring.Nat
import Mathlib.Data.Nat.Basic

/-- A stock that gains some units for each full period, up to its capacity. -/
structure Refill where
  capacity : Nat
  gain : Nat
  period : Nat

/-! A stock that is kept as a count and the time of that count, and brought up to date when somebody
looks. A full stock needs no mark. -/
namespace Refill

structure Mark where
  count : Nat
  since : Nat
  deriving DecidableEq

/-- What has been gained since the mark. -/
def gained (r : Refill) (mark : Mark) (now : Nat) : Nat :=
  (now - mark.since) / r.period * r.gain

def level (r : Refill) : Option Mark → Nat → Nat
  | none, _ => r.capacity
  | some mark, now => min r.capacity (mark.count + r.gained mark now)

/-- A look after a full period sets a new mark, and drops the mark of a full stock. -/
def look (r : Refill) (now : Nat) : Option Mark → Option Mark
  | none => none
  | some mark =>
    if mark.since + r.period ≤ now then
      if r.capacity ≤ mark.count + r.gained mark now then none
      else some ⟨mark.count + r.gained mark now, now⟩
    else some mark

/-- Some units are taken from the level. -/
def take (r : Refill) (used now : Nat) (mark? : Option Mark) : Option Mark :=
  some ⟨r.level mark? now - used, now⟩

/-- Marks of the past. -/
def Past (now : Nat) (mark? : Option Mark) : Prop := ∀ mark, mark? = some mark → mark.since ≤ now

/-- A mark that is not full at the time of a look after a full period loses what has been gained
towards the next period, unless a period is the smallest unit of time. -/
def Harmless (r : Refill) (now : Nat) (mark? : Option Mark) : Prop :=
  ∀ mark, mark? = some mark → mark.since + r.period ≤ now →
    r.period = 1 ∨ r.capacity ≤ mark.count + r.gained mark now

/-- Marks that will show the same levels whoever looks from now on. -/
def Alike (r : Refill) (now : Nat) (mark? other? : Option Mark) : Prop :=
  mark? = other? ∨ (r.level mark? now = r.capacity ∧ r.level other? now = r.capacity) ∨
    (r.period = 1 ∧ r.level mark? now = r.level other? now)

variable {r : Refill} {now next used : Nat} {mark? other? : Option Mark}

theorem level_le (r : Refill) (mark? : Option Mark) (now : Nat) :
    r.level mark? now ≤ r.capacity := by
  cases mark? with
  | none => exact Nat.le_refl _
  | some mark => exact Nat.min_le_left _ _

theorem level_mono (order : now ≤ next) (r : Refill) (mark? : Option Mark) :
    r.level mark? now ≤ r.level mark? next := by
  cases mark? with
  | none => exact Nat.le_refl _
  | some mark =>
    have gains : r.gained mark now ≤ r.gained mark next :=
      Nat.mul_le_mul_right _ (Nat.div_le_div_right (Nat.sub_le_sub_right order _))
    simp only [level]
    omega

theorem full_later (order : now ≤ next) (full : r.level mark? now = r.capacity) :
    r.level mark? next = r.capacity :=
  Nat.le_antisymm (r.level_le mark? next) (full ▸ level_mono order r mark?)

theorem level_of_unit (unit : r.period = 1) (past : Past now mark?) (order : now ≤ next) :
    r.level mark? next = min r.capacity (r.level mark? now + (next - now) * r.gain) := by
  cases mark? with
  | none =>
    simp only [level]
    omega
  | some mark =>
    have since := past mark rfl
    have split_ : next - mark.since = (now - mark.since) + (next - now) := by omega
    simp only [level, gained, unit, Nat.div_one]
    rw [split_, Nat.add_mul]
    omega

theorem level_look (r : Refill) (now : Nat) (mark? : Option Mark) :
    r.level (r.look now mark?) now = r.level mark? now := by
  cases mark? with
  | none => rfl
  | some mark =>
    simp only [look]
    split
    · split
      · rename_i full
        simp only [level]
        omega
      · simp [level, gained]
    · rfl

namespace Alike

section
variable (alike : r.Alike now mark? other?)
include alike

theorem level : r.level mark? now = r.level other? now := by
  rcases alike with rfl | ⟨full, fullToo⟩ | ⟨_, same⟩
  · rfl
  · rw [full, fullToo]
  · exact same

theorem later (past : Past now mark?) (pastToo : Past now other?)
    (order : now ≤ next) : r.Alike next mark? other? := by
  rcases alike with same | ⟨full, fullToo⟩ | ⟨unit, same⟩
  · exact Or.inl same
  · exact Or.inr (Or.inl ⟨full_later order full, full_later order fullToo⟩)
  · refine Or.inr (Or.inr ⟨unit, ?_⟩)
    rw [level_of_unit unit past order, level_of_unit unit pastToo order, same]

theorem look :
    r.Alike now (r.look now mark?) (r.look now other?) := by
  rcases alike with same | ⟨full, fullToo⟩ | ⟨unit, same⟩
  · exact Or.inl (congrArg _ same)
  · exact Or.inr (Or.inl ⟨(r.level_look now mark?).trans full,
      (r.level_look now other?).trans fullToo⟩)
  · exact Or.inr (Or.inr ⟨unit, by rw [level_look, level_look, same]⟩)

theorem look_left (harmless : r.Harmless now mark?) :
    r.Alike now (r.look now mark?) other? := by
  have same := alike.level
  by_cases moves : r.look now mark? = mark?
  · rw [moves]
    exact alike
  cases mark? with
  | none => exact absurd rfl moves
  | some mark =>
    have due : mark.since + r.period ≤ now := by
      by_contra early
      exact moves (if_neg early)
    rcases harmless mark rfl due with unit | full
    · exact Or.inr (Or.inr ⟨unit, (r.level_look now _).trans same⟩)
    · have isFull : r.level (some mark) now = r.capacity := Nat.min_eq_left full
      exact Or.inr (Or.inl ⟨(r.level_look now _).trans isFull, same.symm.trans isFull⟩)

theorem take (used : Nat) :
    r.take used now mark? = r.take used now other? := by
  unfold Refill.take
  rw [alike.level]

end

end Alike

theorem look_early {mark : Mark} (early : now < mark.since + r.period) :
    r.look now (some mark) = some mark := if_neg (by omega)

theorem gained_early {mark : Mark} (order : mark.since ≤ now)
    (early : now < mark.since + r.period) : r.gained mark now = 0 := by
  unfold gained
  rw [Nat.div_eq_of_lt (by omega), Nat.zero_mul]

theorem look_cases (periodic : 0 < r.period) {mark : Mark} (here : r.look now mark? = some mark) :
    mark? = some mark ∨ ∃ old, mark? = some old ∧ mark.count = old.count + r.gained old now ∧
      mark.count < r.capacity ∧ mark.since = now ∧ r.gained mark now = 0 := by
  cases mark? with
  | none => cases here
  | some old =>
    simp only [look] at here
    split at here
    · split at here
      · cases here
      · rename_i some_
        cases here
        exact Or.inr ⟨old, rfl, rfl, Nat.lt_of_not_le some_, rfl,
          gained_early (Nat.le_refl _) (Nat.lt_add_of_pos_right periodic)⟩
    · exact Or.inl here

theorem level_early {mark : Mark} (order : mark.since ≤ now)
    (early : now < mark.since + r.period) (below : mark.count ≤ r.capacity) :
    r.level (some mark) now = mark.count := by
  have none : r.gained mark now = 0 := gained_early order early
  simp only [level, none]
  omega

end Refill
