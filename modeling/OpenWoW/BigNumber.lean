import OpenWoW.ByteBuffer
import Mathlib.Data.Int.ModEq
import Mathlib.Tactic.Ring

namespace OpenWoW

/-- What `c_str()` and the C string functions see of a string. -/
def cString (text : Bytes) : Bytes := text.takeWhile (· ≠ 0)

/-- The number an OpenSSL `BIGNUM` holds. -/
abbrev BigNumber := Int

namespace BigNumber

/-- `BN_num_bytes`, which does not look at the sign. -/
def getNumBytes (n : BigNumber) : Nat :=
  if n.natAbs = 0 then 0 else Nat.log2 n.natAbs / 8 + 1

/-- `AsByteArray`: `BN_bn2bin` fills the front of the array with the most significant
byte first, and the whole array is reversed after that, so padding ends up in front. -/
def asByteArray (minSize : Nat) (n : BigNumber) : Bytes :=
  List.replicate (minSize - getNumBytes n) 0 ++ Bits.leBytes (getNumBytes n) n.natAbs

/-- What `SHA1Hash::UpdateBigNumbers` feeds to the hash for one number. -/
def digestBytes (n : BigNumber) : Bytes := asByteArray 0 n

def setBinary (bytes : Bytes) : BigNumber := Bits.leValue bytes

def hexDigit (char : UInt8) : Option Nat :=
  let c := char.toNat
  if 48 ≤ c ∧ c ≤ 57 then some (c - 48)
  else if 65 ≤ c ∧ c ≤ 70 then some (c - 55)
  else if 97 ≤ c ∧ c ≤ 102 then some (c - 87)
  else none

/-- The number written by the leading hexadecimal digits, if there are any. -/
def leadingHex : Bytes → Option Nat → Option Nat
  | [], value => value
  | char :: text, value =>
    match hexDigit char with
    | some digit => leadingHex text (some (value.getD 0 * 16 + digit))
    | none => value

/-- `BN_hex2bn` takes as many characters as form a number, a leading minus sign
included, and leaves the target alone when there are none. -/
def setHexStr (old : BigNumber) (text : Bytes) : BigNumber :=
  match text with
  | [] => old
  | char :: rest =>
    if char = 45 then (leadingHex rest none).elim old fun n => -(n : Int)
    else (leadingHex text none).elim old fun n => (n : Int)

/-- The upper-case digit of a number below sixteen. -/
def hexChar (digit : Nat) : UInt8 := UInt8.ofNat (if digit < 10 then 48 + digit else 55 + digit)

/-- `BN_bn2hex` writes two digits a byte, most significant byte first. -/
def asHexStr (n : BigNumber) : Bytes :=
  (if n < 0 then [45] else []) ++
    if n = 0 then [48]
    else (digestBytes n).reverse.flatMap fun byte =>
      [hexChar (byte.toNat / 16), hexChar (byte.toNat % 16)]

/-- Square and multiply, one turn a bit of the exponent. -/
def powModLoop (modulus : Nat) : Nat → Nat → Nat → Nat → Nat
  | 0, _, _, result => result
  | bits + 1, base, exponent, result =>
    powModLoop modulus bits (base * base % modulus) (exponent / 2)
      (if exponent % 2 = 1 then result * base % modulus else result)

theorem powModLoop_eq (modulus : Nat) {bits : Nat} (base exponent result : Nat)
    (fits : exponent < 2 ^ bits) :
    powModLoop modulus bits base exponent result % modulus =
      result * base ^ exponent % modulus := by
  induction bits generalizing base exponent result with
  | zero =>
    have zero : exponent = 0 := by simpa using fits
    simp [powModLoop, zero]
  | succ bits ih =>
    have half : exponent / 2 < 2 ^ bits := by
      rw [Nat.pow_succ] at fits
      omega
    have square : (base * base % modulus) ^ (exponent / 2) % modulus =
        base ^ (2 * (exponent / 2)) % modulus := by
      rw [← Nat.pow_mod, ← Nat.pow_two, ← Nat.pow_mul]
    rw [powModLoop, ih _ _ _ half, Nat.mul_mod, square]
    by_cases odd : exponent % 2 = 1
    · have whole : exponent = 2 * (exponent / 2) + 1 := by omega
      rw [if_pos odd, Nat.mod_mod, ← Nat.mul_mod]
      conv => rhs; rw [whole, Nat.pow_succ]
      congr 1
      ring
    · have whole : exponent = 2 * (exponent / 2) := by omega
      rw [if_neg odd, ← Nat.mul_mod]
      conv => rhs; rw [whole]

/-- `BN_mod_exp` for a modulus above zero and an exponent that is not negative. -/
def modExp (base exponent modulus : BigNumber) : BigNumber :=
  (powModLoop modulus.natAbs (Nat.log2 exponent.natAbs + 1) (base % modulus).natAbs
    exponent.natAbs 1 % modulus.natAbs : Nat)

theorem modExp_eq (base : BigNumber) (exponent modulus : Nat) (positive : 0 < modulus) :
    modExp base exponent modulus = base ^ exponent % (modulus : Int) := by
  have fits : exponent < 2 ^ (Nat.log2 exponent + 1) := Nat.lt_log2_self
  have reduced : ((base % (modulus : Int)).natAbs : Int) = base % modulus :=
    Int.natAbs_of_nonneg (Int.emod_nonneg _ (by omega))
  simp only [modExp, Int.natAbs_natCast, powModLoop_eq _ _ _ _ fits, Nat.one_mul]
  rw [Int.natCast_mod, Int.natCast_pow, reduced]
  exact (Int.mod_modEq base modulus).pow exponent

/-- `operator%` is `BN_mod`, whose result has the sign of the dividend. -/
def mod (n modulus : BigNumber) : BigNumber := n.tmod modulus

end BigNumber

end OpenWoW
