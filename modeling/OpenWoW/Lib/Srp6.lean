import Mathlib.Data.Int.ModEq
import Mathlib.RingTheory.Coprime.Lemmas
import Mathlib.Tactic.Ring

/-! The premaster secret of SRP6: both ends of an honest exchange come to the same number, for any
modulus `N`, generator `g` and multiplier `k`. -/
namespace Srp6

variable {N : Int} {g k A B v : Int} {a b u x : Nat}

theorem unmasked (verifier : v ≡ g ^ x [ZMOD N]) (public_ : B ≡ v * k + g ^ b [ZMOD N]) :
    B - k * g ^ x ≡ g ^ b [ZMOD N] := by
  have masked : B ≡ g ^ x * k + g ^ b [ZMOD N] :=
    public_.trans ((verifier.mul_right k).add_right (g ^ b))
  calc B - k * g ^ x ≡ g ^ x * k + g ^ b - k * g ^ x [ZMOD N] := masked.sub_right _
    _ = g ^ b := by ring

theorem client_premaster (verifier : v ≡ g ^ x [ZMOD N]) (public_ : B ≡ v * k + g ^ b [ZMOD N]) :
    (B - k * g ^ x) ^ (a + u * x) ≡ g ^ (b * (a + u * x)) [ZMOD N] := by
  rw [pow_mul]
  exact (unmasked verifier public_).pow _

theorem server_premaster (verifier : v ≡ g ^ x [ZMOD N]) (public_ : A ≡ g ^ a [ZMOD N]) :
    (A * v ^ u) ^ b ≡ g ^ (b * (a + u * x)) [ZMOD N] := by
  have both : A * v ^ u ≡ g ^ a * (g ^ x) ^ u [ZMOD N] := public_.mul (verifier.pow u)
  calc (A * v ^ u) ^ b ≡ (g ^ a * (g ^ x) ^ u) ^ b [ZMOD N] := both.pow b
    _ = g ^ (b * (a + u * x)) := by ring

theorem premaster_eq (verifier : v ≡ g ^ x [ZMOD N]) (client : A ≡ g ^ a [ZMOD N])
    (server : B ≡ v * k + g ^ b [ZMOD N]) :
    (B - k * g ^ x) ^ (a + u * x) ≡ (A * v ^ u) ^ b [ZMOD N] :=
  (client_premaster verifier server).trans (server_premaster verifier client).symm

theorem power_ne_zero {n : Nat} (coprime : IsCoprime g N) (proper : ¬IsUnit N) :
    ¬ g ^ n ≡ 0 [ZMOD N] := by
  intro zero
  have divides : N ∣ g ^ n := Int.modEq_zero_iff_dvd.mp zero
  exact proper (IsCoprime.isUnit_of_dvd' coprime.pow_left divides (dvd_refl N))

end Srp6
