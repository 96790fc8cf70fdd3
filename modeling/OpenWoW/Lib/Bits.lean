import Mathlib.Data.List.Induction
import Mathlib.Data.Nat.Bitwise
import Mathlib.Tactic.Ring

/-! Bytes as most-significant-bit-first bit lists, fixed-width numbers as
most-significant-bit-first bit lists, and numbers as little-endian byte lists. -/
namespace Bits

open List

/-- The byte with only bit `n` set; positions past the byte are dropped by the
conversion to eight bits. -/
def bit8 (n : Nat) : UInt8 := if n < 8 then UInt8.ofNat (1 <<< n) else 0

/-- The `i`-th bit of a byte, counted from the most significant one. -/
def msb (byte : UInt8) (i : Nat) : Bool := byte.toNat.testBit (7 - i)

/-- Pack at most eight bits into a byte, the first one on top. -/
def pack (bits : List Bool) : UInt8 :=
  bits.zipIdx.foldl (fun byte bit => if bit.1 then byte ||| bit8 (7 - bit.2) else byte) 0

@[simp] theorem pack_nil : pack [] = 0 := rfl

variable (width value : Nat) (bytes : List UInt8) (bits : List Bool)

theorem pack_append_singleton (bit : Bool) :
    pack (bits ++ [bit]) =
      if bit then pack bits ||| bit8 (7 - bits.length) else pack bits := by
  simp [pack, zipIdx_append]

theorem bit8_testBit (n i : Nat) (small : n < 8) : (bit8 n).toNat.testBit i = decide (n = i) := by
  have fits : 1 <<< n < 2 ^ 8 := by
    rw [Nat.one_shiftLeft]
    exact Nat.pow_lt_pow_right (by decide) small
  rw [bit8, if_pos small, UInt8.toNat_ofNat_of_lt' fits, Nat.one_shiftLeft, Nat.testBit_two_pow]

theorem msb_zero (i : Nat) : msb 0 i = false := by
  simp [msb]

theorem msb_pack (short : bits.length ≤ 8) (i : Nat) (inside : i < 8) :
    msb (pack bits) i = bits[i]?.getD false := by
  induction bits using List.reverseRecOn generalizing i with
  | nil => simp [msb_zero]
  | append_singleton bits bit ih =>
    have shorter : bits.length ≤ 7 := by
      rw [length_append, length_singleton] at short
      omega
    have earlier := ih (by omega) i inside
    have target := bit8_testBit (7 - bits.length) (7 - i) (by omega)
    rw [pack_append_singleton]
    rcases Nat.lt_trichotomy i bits.length with before | same | after
    · have apart : ¬ 7 - bits.length = 7 - i := by omega
      rw [getElem?_append_left before, ← earlier]
      cases bit <;> simp [msb, target, apart]
    · subst same
      have unset : msb (pack bits) bits.length = false := by
        rw [earlier, getElem?_eq_none (Nat.le_refl _)]
        rfl
      cases bit with
      | false => simpa using unset
      | true => simp [msb, target]
    · have apart : ¬ 7 - bits.length = 7 - i := by omega
      have absent : (bits ++ [bit])[i]? = none :=
        getElem?_eq_none (by simp; omega)
      have missing : bits[i]? = none := getElem?_eq_none (by omega)
      rw [missing] at earlier
      rw [absent, ← earlier]
      cases bit <;> simp [msb, target, apart]

/-- The low `width` bits of a number, the most significant one first. -/
def ofNat : Nat → Nat → List Bool
  | 0, _ => []
  | width + 1, value => value.testBit width :: ofNat width value

/-- The number whose low bits are `bits`, the most significant one first. -/
def toNat : List Bool → Nat
  | [] => 0
  | bit :: bits => (if bit then 2 ^ bits.length else 0) + toNat bits

@[simp] theorem ofNat_length : (ofNat width value).length = width := by
  induction width with
  | zero => rfl
  | succ width ih => simp [ofNat, ih]

theorem toNat_lt : toNat bits < 2 ^ bits.length := by
  induction bits with
  | nil => simp [toNat]
  | cons bit bits ih =>
    simp only [toNat, length_cons, Nat.pow_succ]
    split <;> omega

theorem toNat_ofNat : toNat (ofNat width value) = value % 2 ^ width := by
  induction width with
  | zero => simp [ofNat, toNat, Nat.mod_one]
  | succ width ih =>
    simp only [ofNat, toNat, ofNat_length, ih]
    rw [Nat.mod_pow_succ, Nat.testBit_eq_decide_div_mod_eq]
    have parity := Nat.mod_two_eq_zero_or_one (value / 2 ^ width)
    rcases parity with zero | one
    · simp [zero]
    · simp [one, Nat.add_comm]

/-- Little-endian bytes of a number, truncated to `width` bytes. -/
def leBytes : Nat → Nat → List UInt8
  | 0, _ => []
  | width + 1, value => UInt8.ofNat value :: leBytes width (value / 256)

/-- The number with the given little-endian bytes. -/
def leValue : List UInt8 → Nat
  | [] => 0
  | byte :: bytes => byte.toNat + 256 * leValue bytes

@[simp] theorem leBytes_length : (leBytes width value).length = width := by
  induction width generalizing value with
  | zero => rfl
  | succ width ih => simp [leBytes, ih]

theorem leValue_leBytes :
    leValue (leBytes width value) = value % 256 ^ width := by
  induction width generalizing value with
  | zero => simp [leBytes, leValue, Nat.mod_one]
  | succ width ih =>
    rw [leBytes, leValue, ih, UInt8.toNat_ofNat', Nat.pow_succ 256, Nat.mul_comm (256 ^ width),
      Nat.mod_mul]

theorem leValue_lt : leValue bytes < 256 ^ bytes.length := by
  induction bytes with
  | nil => exact Nat.one_pos
  | cons byte bytes ih =>
    have small := byte.toNat_lt
    rw [leValue, length_cons, Nat.pow_succ]
    omega

theorem leBytes_leValue : leBytes bytes.length (leValue bytes) = bytes := by
  induction bytes with
  | nil => rfl
  | cons byte bytes ih =>
    have small := byte.toNat_lt
    have head : UInt8.ofNat (byte.toNat + 256 * leValue bytes) = byte := by
      apply UInt8.toNat_inj.mp
      rw [UInt8.toNat_ofNat']
      omega
    have tail : (byte.toNat + 256 * leValue bytes) / 256 = leValue bytes := by omega
    rw [leValue, length_cons, leBytes, head, tail, ih]

theorem leValue_injective {xs ys : List UInt8} (length : xs.length = ys.length)
    (same : leValue xs = leValue ys) : xs = ys := by
  rw [← leBytes_leValue xs, length, same, leBytes_leValue]

theorem leValue_append (xs ys : List UInt8) :
    leValue (xs ++ ys) = leValue xs + 256 ^ xs.length * leValue ys := by
  induction xs with
  | nil => simp [leValue]
  | cons x xs ih =>
    rw [cons_append, leValue, leValue, ih, length_cons, Nat.pow_succ]
    ring

theorem leValue_zeros (count : Nat) : leValue (List.replicate count 0) = 0 := by
  induction count with
  | zero => rfl
  | succ count ih => rw [replicate_succ, leValue, ih, UInt8.toNat_zero]

theorem leBytes_append_zeros {width value : Nat} (fits : value < 256 ^ width) (more : Nat) :
    leBytes width value ++ List.replicate more 0 = leBytes (width + more) value := by
  apply leValue_injective (by simp)
  have larger : value < 256 ^ (width + more) :=
    Nat.lt_of_lt_of_le fits (Nat.pow_le_pow_right (by decide) (Nat.le_add_right _ _))
  rw [leValue_append, leValue_zeros, leValue_leBytes, leValue_leBytes, Nat.mod_eq_of_lt fits,
    Nat.mod_eq_of_lt larger, Nat.mul_zero, Nat.add_zero]

section

/-- The bits of bytes, those of a byte from the most significant one down. -/
def ofBytes (bytes : List UInt8) : List Bool := bytes.flatMap fun byte => (range 8).map (msb byte)

/-- The byte with one bit set or cleared. -/
def setMsb (byte : UInt8) (i : Nat) (on : Bool) : UInt8 :=
  if on then byte ||| bit8 (7 - i) else byte &&& ~~~bit8 (7 - i)

variable (bytes : List UInt8)

theorem ofBytes_append (more : List UInt8) :
    ofBytes (bytes ++ more) = ofBytes bytes ++ ofBytes more := flatMap_append ..

@[simp] theorem ofBytes_length : (ofBytes bytes).length = 8 * bytes.length := by
  simp [ofBytes, length_flatMap, map_const', Nat.mul_comm]

theorem getElem?_ofBytes (i : Nat) : (ofBytes bytes)[i]? = bytes[i / 8]?.map (msb · (i % 8)) := by
  induction bytes generalizing i with
  | nil => simp [ofBytes]
  | cons byte bytes ih =>
    have split : ofBytes (byte :: bytes) = (range 8).map (msb byte) ++ ofBytes bytes := flatMap_cons
    by_cases early : i < 8
    · have first : i / 8 = 0 := by omega
      rw [split, getElem?_append_left (by simpa using early), getElem?_map, getElem?_range early,
        first, Nat.mod_eq_of_lt early]
      rfl
    · have later : i / 8 = (i - 8) / 8 + 1 := by omega
      have same : (i - 8) % 8 = i % 8 := by omega
      rw [split, getElem?_append_right (by simpa using early), later, getElem?_cons_succ]
      simpa [same] using ih (i - 8)

theorem msb_setMsb (byte : UInt8) {i j : Nat} (inside : i < 8) (within : j < 8) (on : Bool) :
    msb (setMsb byte i on) j = if i = j then on else msb byte j := by
  have target : (bit8 (7 - i)).toBitVec.getLsbD (7 - j) = decide (i = j) := by
    refine (bit8_testBit (7 - i) (7 - j) (by omega)).trans (decide_eq_decide.mpr ?_)
    omega
  change (setMsb byte i on).toBitVec.getLsbD (7 - j) =
    if i = j then on else byte.toBitVec.getLsbD (7 - j)
  have low : 7 - j < 8 := by omega
  cases on with
  | false =>
    rw [setMsb, if_neg nofun, UInt8.toBitVec_and, UInt8.toBitVec_not, BitVec.getLsbD_and,
      BitVec.getLsbD_not, target]
    by_cases same : i = j <;> simp only [same, low, decide_true, decide_false, Bool.not_true,
      Bool.not_false, Bool.and_true, Bool.and_false, ↓reduceIte]
  | true =>
    rw [setMsb, if_pos rfl, UInt8.toBitVec_or, BitVec.getLsbD_or, target]
    by_cases same : i = j <;> simp only [same, decide_true, decide_false, Bool.or_true,
      Bool.or_false, ↓reduceIte]

theorem ofBytes_modify {i : Nat} (inside : i < 8 * bytes.length) (on : Bool) :
    ofBytes (bytes.modify (i / 8) (setMsb · (i % 8) on)) = (ofBytes bytes).set i on := by
  apply ext_getElem?
  intro j
  rw [getElem?_ofBytes, getElem?_modify, getElem?_set, getElem?_ofBytes, ofBytes_length]
  dsimp only [Functor.map]
  by_cases same : i / 8 = j / 8
  · have there : j / 8 < bytes.length := by omega
    rw [getElem?_eq_getElem there]
    have bit := msb_setMsb bytes[j / 8] (i := i % 8) (j := j % 8) (by omega) (by omega) on
    have place : i % 8 = j % 8 ↔ i = j := by omega
    simp only [Option.map_some, same, ↓reduceIte, bit, inside, place]
    split <;> rfl
  · have apart : i ≠ j := by
      rintro rfl
      exact same rfl
    simp [same, apart]

theorem ofBytes_injective {xs ys : List UInt8} (same : ofBytes xs = ofBytes ys) : xs = ys := by
  have lengths := congrArg List.length same
  rw [ofBytes_length, ofBytes_length] at lengths
  apply ext_getElem (by omega)
  intro n here there
  rw [← UInt8.toBitVec_inj]
  apply BitVec.eq_of_getLsbD_eq
  intro k small
  have bit := congrArg (fun bits => bits[8 * n + (7 - k)]?) same
  have place : (8 * n + (7 - k)) / 8 = n := by omega
  have offset : (8 * n + (7 - k)) % 8 = 7 - k := by omega
  have back : 7 - (7 - k) = k := by omega
  rw [getElem?_ofBytes, getElem?_ofBytes, place, offset, getElem?_eq_getElem here,
    getElem?_eq_getElem there, Option.map_some, Option.map_some, Option.some_inj, msb, msb, back] at bit
  exact bit

theorem ofBytes_pack {bits : List Bool} (short : bits.length ≤ 8) :
    ofBytes [pack bits] = bits ++ replicate (8 - bits.length) false := by
  apply ext_getElem?
  intro i
  rw [getElem?_ofBytes, getElem?_append, getElem?_replicate]
  by_cases inside : i < 8
  · have first : i / 8 = 0 := by omega
    rw [first, Nat.mod_eq_of_lt inside, getElem?_cons_zero, Option.map_some, msb_pack bits short i inside]
    split
    · simp [*]
    · simp [*]; omega
  · have beyond : ¬ i < bits.length := by omega
    have last : i / 8 ≠ 0 := by omega
    rw [if_neg beyond, if_neg (by omega)]
    simp; omega

end

end Bits
