import OpenWoW.BigNumber
import Mathlib.Data.List.TakeWhile

/-! The bytes and the hexadecimal text of a number: which numbers keep their width. -/
namespace OpenWoW.BigNumber

open List

/-- The most significant of `width` bytes is not zero. -/
def Full (width n : Nat) : Prop := 256 ^ (width - 1) ≤ n

instance (width n : Nat) : Decidable (Full width n) := inferInstanceAs (Decidable (_ ≤ _))

variable {width n : Nat}

theorem getNumBytes_le_iff : getNumBytes n ≤ width ↔ n < 256 ^ width := by
  have power : (256 : Nat) ^ width = 2 ^ (8 * width) := by
    rw [Nat.pow_mul]
  simp only [getNumBytes, Int.natAbs_natCast]
  by_cases zero : n = 0
  · rw [if_pos zero, zero]
    exact iff_of_true (Nat.zero_le _) (Nat.pow_pos (by decide))
  · rw [if_neg zero, power, ← Nat.log2_lt zero]
    omega

theorem lt_getNumBytes : n < 256 ^ getNumBytes n := getNumBytes_le_iff.mp (Nat.le_refl _)

theorem full_iff (positive : 0 < width) (fits : n < 256 ^ width) :
    Full width n ↔ getNumBytes n = width := by
  have upper : getNumBytes n ≤ width := getNumBytes_le_iff.mpr fits
  have lower : getNumBytes n ≤ width - 1 ↔ n < 256 ^ (width - 1) := getNumBytes_le_iff
  unfold Full
  omega

theorem digestBytes_length : (digestBytes n).length = getNumBytes n := by
  simp [digestBytes, asByteArray]

theorem leValue_asByteArray :
    Bits.leValue (asByteArray width n) = 256 ^ (width - getNumBytes n) * n := by
  rw [asByteArray, Bits.leValue_append, Bits.leValue_zeros, length_replicate, Nat.zero_add,
    Bits.leValue_leBytes, Int.natAbs_natCast, Nat.mod_eq_of_lt lt_getNumBytes]

theorem digestBytes_le (fits : n < 256 ^ width) : (digestBytes n).length ≤ width := by
  rw [digestBytes_length]
  exact getNumBytes_le_iff.mpr fits

theorem full_of_length (positive : 0 < width) (fits : n < 256 ^ width)
    (length : (digestBytes n).length = width) : Full width n :=
  (full_iff positive fits).mpr (digestBytes_length.symm.trans length)

theorem digestBytes_full (positive : 0 < width) (fits : n < 256 ^ width) (full : Full width n) :
    digestBytes n = Bits.leBytes width n := by
  rw [digestBytes, asByteArray, (full_iff positive fits).mp full, Nat.zero_sub, replicate_zero,
    nil_append, Int.natAbs_natCast]

theorem digestBytes_padded (fits : n < 256 ^ width) :
    digestBytes n ++ List.replicate (width - (digestBytes n).length) 0 = Bits.leBytes width n := by
  have small := digestBytes_le fits
  rw [digestBytes, asByteArray, Nat.zero_sub, replicate_zero, nil_append,
    Int.natAbs_natCast, Bits.leBytes_append_zeros lt_getNumBytes, Bits.leBytes_length]
  rw [digestBytes_length] at small
  rw [Nat.add_sub_cancel' small]

theorem asByteArray_length (fits : n < 256 ^ width) : (asByteArray width n).length = width := by
  have upper : getNumBytes n ≤ width := getNumBytes_le_iff.mpr fits
  rw [asByteArray, length_append, length_replicate, Bits.leBytes_length, Nat.sub_add_cancel upper]

theorem asByteArray_full (positive : 0 < width) (fits : n < 256 ^ width) (full : Full width n) :
    asByteArray width n = Bits.leBytes width n := by
  rw [asByteArray, (full_iff positive fits).mp full, Nat.sub_self, replicate_zero,
    nil_append, Int.natAbs_natCast]

theorem full_of_asByteArray (positive : 0 < width) (fits : n < 256 ^ width) (nonzero : n ≠ 0)
    (same : asByteArray width n = Bits.leBytes width n) : Full width n := by
  have values := congrArg Bits.leValue same
  rw [leValue_asByteArray, Bits.leValue_leBytes, Nat.mod_eq_of_lt fits] at values
  have upper : getNumBytes n ≤ width := getNumBytes_le_iff.mpr fits
  have power : 256 ^ (width - getNumBytes n) = 1 :=
    Nat.eq_of_mul_eq_mul_right (Nat.pos_of_ne_zero nonzero) (values.trans (Nat.one_mul n).symm)
  have none_ : width - getNumBytes n = 0 := by
    by_contra some_
    have larger := Nat.one_lt_pow some_ (show 1 < 256 by decide)
    omega
  exact (full_iff positive fits).mpr (by omega)

theorem hexDigit_hexChar {digit : Nat} (small : digit < 16) :
    hexDigit (hexChar digit) = some digit := by
  have all : ∀ digit : Fin 16, hexDigit (hexChar digit) = some digit.val := by decide
  exact all ⟨digit, small⟩

theorem leadingHex_bytes (bytes : Bytes) (value : Nat) :
    leadingHex (bytes.reverse.flatMap fun byte =>
      [hexChar (byte.toNat / 16), hexChar (byte.toNat % 16)]) (some value) =
      some (value * 256 ^ bytes.length + Bits.leValue bytes) := by
  induction bytes using List.reverseRecOn generalizing value with
  | nil => simp [leadingHex, Bits.leValue]
  | append_singleton bytes byte ih =>
    have small := byte.toNat_lt
    have high := hexDigit_hexChar (show byte.toNat / 16 < 16 by omega)
    have low := hexDigit_hexChar (show byte.toNat % 16 < 16 by omega)
    simp only [reverse_append, reverse_cons, reverse_nil, nil_append,
      flatMap_cons, cons_append, leadingHex, high, low,
      Option.getD_some, ih]
    congr 1
    rw [length_append, length_singleton, Nat.pow_succ, Bits.leValue_append, Bits.leValue,
      Bits.leValue]
    have whole : (value * 16 + byte.toNat / 16) * 16 + byte.toNat % 16 =
        value * 256 + byte.toNat := by
      omega
    rw [whole]
    ring

/-- The text of the bytes, most significant byte first. -/
def hexPairs (bytes : Bytes) : Bytes :=
  bytes.reverse.flatMap fun byte => [hexChar (byte.toNat / 16), hexChar (byte.toNat % 16)]

theorem hexPairs_digits {bytes : Bytes} {char : UInt8} (inside : char ∈ hexPairs bytes) :
    ∃ digit, hexDigit char = some digit := by
  simp only [hexPairs, mem_flatMap, mem_cons, not_mem_nil, or_false] at inside
  obtain ⟨byte, _, rfl | rfl⟩ := inside
  · have small := byte.toNat_lt
    exact ⟨_, hexDigit_hexChar (by omega)⟩
  · exact ⟨_, hexDigit_hexChar (Nat.mod_lt _ (by decide))⟩

theorem setHexStr_hexPairs (old : BigNumber) {bytes : Bytes} (some_ : bytes ≠ []) :
    setHexStr old (cString (hexPairs bytes)) = Bits.leValue bytes := by
  have whole : cString (hexPairs bytes) = hexPairs bytes := by
    apply takeWhile_eq_self_iff.mpr
    intro char inside
    obtain ⟨digit, read⟩ := hexPairs_digits inside
    apply decide_eq_true
    rintro rfl
    cases read
  have value := leadingHex_bytes bytes 0
  rw [← hexPairs, Nat.zero_mul, Nat.zero_add] at value
  rw [whole]
  cases text : hexPairs bytes with
  | nil =>
    obtain ⟨byte, inside⟩ := exists_mem_of_ne_nil bytes some_
    have char : hexChar (byte.toNat / 16) ∈ hexPairs bytes :=
      mem_flatMap.mpr ⟨byte, mem_reverse.mpr inside, mem_cons_self⟩
    rw [text] at char
    cases char
  | cons char rest =>
    obtain ⟨digit, read⟩ := hexPairs_digits (text ▸ mem_cons_self : char ∈ hexPairs bytes)
    have plain : char ≠ 45 := by
      rintro rfl
      cases read
    rw [text, leadingHex, read] at value
    rw [setHexStr, if_neg plain, leadingHex, read]
    exact congrArg (fun found => Option.elim found old Nat.cast) value

theorem setHexStr_asHexStr (old : BigNumber) (n : Nat) : setHexStr old (cString (asHexStr n)) = n := by
  have positive : ¬(n : Int) < 0 := by omega
  unfold asHexStr
  rw [if_neg positive, nil_append]
  by_cases zero : n = 0
  · rw [zero]
    rfl
  have some_ : digestBytes n ≠ [] := by
    intro nothing
    have length : getNumBytes n = 0 := by rw [← digestBytes_length, nothing, length_nil]
    have small := lt_getNumBytes (n := n)
    rw [length] at small
    omega
  rw [if_neg (Int.natCast_ne_zero.mpr zero)]
  have number := setHexStr_hexPairs old some_
  rw [digestBytes, leValue_asByteArray, Nat.zero_sub, Nat.pow_zero, Nat.one_mul] at number
  exact number

end OpenWoW.BigNumber
