import Mathlib.Data.Nat.Basic

/-! A clock that counts up to a range and starts again from zero, read by code that compares a stored
reading with the present one less a period. -/
namespace Clock

/-- What the clock shows at a time. -/
def reading (range time : Nat) : Nat := time % range

/-- The check that a stored reading is older than a period, with a difference that wraps. -/
def stale (range period stored shown : Nat) : Prop := stored < (shown + (range - period)) % range

/-- The clock has reached the period, or has started again since the first time. -/
def Settled (range period since now : Nat) : Prop :=
  period ≤ reading range now ∨ since / range < now / range

variable {range period since now : Nat}

theorem reading_lt (fits : period < range) : reading range now < range :=
  Nat.mod_lt _ (Nat.lt_of_le_of_lt (Nat.zero_le period) fits)

theorem reading_sub (order : since ≤ now) (round : since / range = now / range) :
    reading range since + (now - since) = reading range now := by
  have first := Nat.div_add_mod since range
  have second := Nat.div_add_mod now range
  rw [round] at first
  unfold reading
  omega

theorem difference (fits : period < range) :
    (reading range now + (range - period)) % range =
      if period ≤ reading range now then reading range now - period
      else reading range now + (range - period) := by
  have bound : reading range now < range := reading_lt fits
  split
  · rename_i reached
    have split_ : reading range now + (range - period) =
        (reading range now - period) + range := by omega
    rw [split_, Nat.add_mod_right, Nat.mod_eq_of_lt (by omega)]
  · exact Nat.mod_eq_of_lt (by omega)

theorem reading_round (order : since ≤ now) (rounds : since / range < now / range) :
    reading range now + range ≤ reading range since + (now - since) := by
  have first := Nat.div_add_mod since range
  have second := Nat.div_add_mod now range
  have more : range * (since / range + 1) ≤ range * (now / range) := Nat.mul_le_mul_left range rounds
  rw [Nat.mul_add, Nat.mul_one] at more
  unfold reading
  omega

theorem stale_sound_iff (fits : period < range) (order : since ≤ now) :
    (stale range period (reading range since) (reading range now) → period < now - since) ↔
      Settled range period since now := by
  unfold stale Settled
  rw [difference fits]
  rcases Nat.lt_or_ge (since / range) (now / range) with later | same
  · have behind := reading_round order later
    simp only [later, or_true, iff_true]
    split <;> omega
  have round := Nat.le_antisymm (Nat.div_le_div_right order) same
  have apart := reading_sub order round
  simp only [round, Nat.lt_irrefl, or_false]
  split <;> omega

end Clock
