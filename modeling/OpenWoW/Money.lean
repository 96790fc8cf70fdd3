import Mathlib

/-! Fixed-width integers as numbers with explicit wrap-around, and a player's wallet. -/
namespace OpenWoW

def toUInt8 (n : Int) : Nat := (n % 2 ^ 8).toNat
def toUInt32 (n : Int) : Nat := (n % 2 ^ 32).toNat
def toUInt64 (n : Int) : Nat := (n % 2 ^ 64).toNat
def toInt32 (n : Int) : Int := n.bmod (2 ^ 32)
def toInt64 (n : Int) : Int := n.bmod (2 ^ 64)

theorem toUInt32_of_lt (n : Nat) (small : n < 2 ^ 32) : toUInt32 n = n := by
  unfold toUInt32
  omega

theorem toUInt64_of_lt {n : Nat} (small : n < 2 ^ 64) : toUInt64 n = n := by
  unfold toUInt64
  omega

theorem toInt32_of_lt {n : Nat} (small : n < 2 ^ 31) : toInt32 n = n := by
  unfold toInt32
  rw [Int.bmod_def]
  omega

theorem toInt32_neg {n : Nat} (small : n < 2 ^ 31) : toInt32 (-n) = -n := by
  unfold toInt32
  rw [Int.bmod_def]
  omega

theorem toInt64_of_lt (n : Nat) (small : n < 2 ^ 63) : toInt64 n = n := by
  unfold toInt64
  rw [Int.bmod_def]
  omega

namespace Player

def maxMoneyAmount : Nat := 9999999999

/-- `Player::ModifyMoney` on a wallet: what it holds afterwards, and whether the call
succeeded. The upper bound is compared as `uint64`. -/
def modifyMoney (money : Nat) (amount : Int) : Nat × Bool :=
  if amount = 0 then (money, true)
  else if amount < 0 then
    (if toUInt64 (-amount) < money then toUInt64 (money + amount) else 0, true)
  else if money < toUInt64 (maxMoneyAmount - amount) then (toUInt64 (money + amount), true)
  else (money, false)

/-- `HasEnoughMoney(int64)`; the `uint64` overload is the plain comparison. -/
def hasEnoughMoney (money : Nat) (amount : Int) : Bool := amount ≤ 0 ∨ amount ≤ money

theorem modifyMoney_charge {money amount : Nat} (small : money < 2 ^ 64)
    (covered : amount ≤ money) : modifyMoney money (-(amount : Int)) = (money - amount, true) := by
  unfold modifyMoney
  by_cases zero : amount = 0
  · simp [zero]
  have nonzero : ¬ -(amount : Int) = 0 := by omega
  have negative : -(amount : Int) < 0 := by omega
  rw [if_neg nonzero, if_pos negative]
  unfold toUInt64
  split
  · congr 1
    omega
  · congr 1
    omega

theorem modifyMoney_le {money : Nat} {amount : Int} {limit : Nat} (small : limit < 2 ^ 63)
    (within : money ≤ limit) (charge : amount ≤ 0) (fits : -(2 ^ 63 : Int) < amount) :
    (modifyMoney money amount).1 ≤ limit := by
  obtain ⟨n, rfl⟩ : ∃ n : Nat, amount = -(n : Int) := ⟨amount.natAbs, by omega⟩
  unfold modifyMoney
  split
  · exact within
  split
  · dsimp only
    split
    · unfold toUInt64 at *
      omega
    · exact Nat.zero_le _
  · omega

theorem modifyMoney_lt (money : Nat) (amount : Int) (small : money < 2 ^ 64) :
    (modifyMoney money amount).1 < 2 ^ 64 := by
  have wraps : ∀ n : Int, toUInt64 n < 2 ^ 64 := by
    intro n
    unfold toUInt64
    omega
  unfold modifyMoney
  split
  · exact small
  split
  · dsimp only
    split
    · exact wraps _
    · decide
  split
  · exact wraps _
  · exact small

theorem modifyMoney_gain (money amount : Nat) (within : money ≤ maxMoneyAmount)
    (fits : amount ≤ maxMoneyAmount) (ok : (modifyMoney money amount).2 = true) :
    (modifyMoney money amount).1 = money + amount ∧ money + amount ≤ maxMoneyAmount := by
  unfold modifyMoney at ok ⊢
  by_cases zero : (amount : Int) = 0
  · rw [if_pos zero]
    exact ⟨by omega, by omega⟩
  rw [if_neg zero, if_neg (by omega)] at ok ⊢
  split at ok
  · rename_i room
    rw [if_pos room]
    unfold toUInt64 maxMoneyAmount at *
    exact ⟨by omega, by omega⟩
  · cases ok

end Player

end OpenWoW
