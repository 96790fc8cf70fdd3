import Mathlib.Algebra.BigOperators.Group.List.Basic
import Mathlib.Data.List.Induction
import OpenWoW.Lib.Run
import OpenWoW.Money

/-! The countdowns of an aura and of a periodic effect of it. -/
namespace OpenWoW.PeriodicAuras

open List

structure Aura where
  isPassive : Bool
  maxDuration : Int
  duration : Int
  deriving DecidableEq, Repr

def Aura.isExpired (aura : Aura) : Bool := aura.duration == 0

def Aura.isPermanent (aura : Aura) : Bool := aura.maxDuration == -1

def Aura.update (diff : Nat) (aura : Aura) : Aura :=
  if 0 < aura.duration then { aura with duration := max 0 (toInt32 (aura.duration - diff)) }
  else aura

theorem Aura.update_running {aura : Aura} (running : 0 ≤ aura.duration) (diff : Nat) :
    0 ≤ (aura.update diff).duration := by
  unfold Aura.update
  split
  · exact Int.le_max_left _ _
  · exact running

structure AuraEffect where
  isPeriodic : Bool
  /-- What mods and haste have made of it. -/
  amplitude : Int
  /-- `SPELL_ATTR5_START_PERIODIC_AT_APPLY` of its spell. -/
  startAtApply : Bool
  periodicTimer : Int
  tickNumber : Nat
  deriving DecidableEq, Repr

def AuraEffect.calculatePeriodic (base : Aura) (resetPeriodicTimer load : Bool)
    (effect : AuraEffect) : AuraEffect :=
  if effect.isPeriodic then
    if load then
      { effect with
        tickNumber := toUInt32 ((if effect.amplitude = 0 then 0
          else base.duration.tdiv effect.amplitude) + effect.startAtApply.toNat)
        periodicTimer := if effect.amplitude = 0 then 0
          else base.duration.tmod effect.amplitude }
    else
      { effect with
        tickNumber := 0
        periodicTimer := if resetPeriodicTimer then
            if effect.startAtApply then 0 else effect.amplitude
          else effect.periodicTimer }
  else effect

/-- `AuraEffect::Update`, and whether it ticks. -/
def AuraEffect.update (base : Aura) (diff : Nat) (effect : AuraEffect) : AuraEffect × Bool :=
  if effect.isPeriodic && (decide (0 ≤ base.duration) || base.isPassive || base.isPermanent) then
    if toInt32 diff < effect.periodicTimer then
      ({ effect with periodicTimer := toInt32 (effect.periodicTimer - diff) }, false)
    else
      ({ effect with
        tickNumber := toUInt32 (effect.tickNumber + 1)
        periodicTimer := toInt32 (effect.periodicTimer + (effect.amplitude - diff)) }, true)
  else (effect, false)

theorem AuraEffect.update_ticks {base : Aura} {effect : AuraEffect}
    (running : 0 ≤ base.duration) (periodic : effect.isPeriodic = true) (diff : Nat) :
    (effect.update base diff).2 = decide (effect.periodicTimer ≤ toInt32 diff) := by
  unfold AuraEffect.update
  rw [if_pos (by simp [periodic, running])]
  split
  · rename_i more
    exact (decide_eq_false (Int.not_le.mpr more)).symm
  · rename_i over_
    exact (decide_eq_true (Int.not_lt.mp over_)).symm

structure OwnedAura where
  base : Aura
  effect : AuraEffect
  deriving DecidableEq, Repr

/-- `_UpdateSpells` for one of the auras of a unit, until it is removed. -/
def updateSpells : Option OwnedAura → Nat → Option OwnedAura × Bool
  | none, _ => (none, false)
  | some owned, time =>
    let base := owned.base.update time
    let (effect, ticked) := owned.effect.update base time
    (if base.isExpired then none else some ⟨base, effect⟩, ticked)

def create (isPassive : Bool) (maxDuration amplitude : Int) (startAtApply : Bool) : OwnedAura :=
  let base : Aura := ⟨isPassive, maxDuration, maxDuration⟩
  ⟨base, AuraEffect.calculatePeriodic base true false ⟨true, amplitude, startAtApply, 0, 0⟩⟩

def setLoadedState (maxDuration duration : Int) (owned : OwnedAura) : OwnedAura :=
  let base := { owned.base with maxDuration, duration }
  ⟨base, owned.effect.calculatePeriodic base false true⟩

/-- The aura is saved, created again when its unit is loaded, and set to what was saved. -/
def reload (owned : OwnedAura) : OwnedAura :=
  setLoadedState owned.base.maxDuration owned.base.duration
    (create owned.base.isPassive owned.base.maxDuration owned.effect.amplitude
      owned.effect.startAtApply)

/-- At which of the updates the effect ticks. -/
def ticks (owned : Option OwnedAura) (times : List Nat) : List Bool :=
  (Run.trace updateSpells owned times).map Run.Taken.out

/-- An aura after the updates since it was created. -/
def life (isPassive : Bool) (maxDuration amplitude : Int) (startAtApply : Bool)
    (times : List Nat) : Option OwnedAura :=
  Run.final updateSpells (some (create isPassive maxDuration amplitude startAtApply)) times

/-- How often its effect ticked. -/
def ticksMade (isPassive : Bool) (maxDuration amplitude : Int) (startAtApply : Bool)
    (times : List Nat) : Nat :=
  (ticks (some (create isPassive maxDuration amplitude startAtApply)) times).count true

theorem life_append (isPassive : Bool) (maxDuration amplitude : Int) (startAtApply : Bool)
    (times : List Nat) (time : Nat) :
    life isPassive maxDuration amplitude startAtApply (times ++ [time]) =
      (updateSpells (life isPassive maxDuration amplitude startAtApply times) time).1 :=
  Run.final_append _ _ _ _

theorem ticksMade_append (isPassive : Bool) (maxDuration amplitude : Int) (startAtApply : Bool)
    (times : List Nat) (time : Nat) :
    ticksMade isPassive maxDuration amplitude startAtApply (times ++ [time]) =
      ticksMade isPassive maxDuration amplitude startAtApply times +
        (updateSpells (life isPassive maxDuration amplitude startAtApply times) time).2.toNat := by
  simp only [ticksMade, ticks, Run.trace_append, map_append, count_append, Run.trace, map_cons,
    map_nil, Run.take_out, life]
  cases (updateSpells _ time).2 <;> rfl

theorem toInt32_of_between {n : Int} (low : 0 ≤ n) (high : n < 2 ^ 31) : toInt32 n = n := by
  unfold toInt32
  rw [Int.bmod_def]
  omega

section

variable {maxDuration amplitude n : Nat} {startAtApply isPassive : Bool} {times : List Nat}
  {effect : AuraEffect} {owned : OwnedAura}

/-- The effect after the updates: the `n` ticks made and the timer make up the time. -/
structure Paced (amplitude : Nat) (startAtApply : Bool) (times : List Nat) (n : Nat)
    (effect : AuraEffect) : Prop where
  periodic : effect.isPeriodic = true
  steady : effect.amplitude = amplitude
  starts : effect.startAtApply = startAtApply
  number : effect.tickNumber = n % 2 ^ 32
  low : 0 ≤ effect.periodicTimer
  high : effect.periodicTimer ≤ amplitude
  timer : effect.periodicTimer + times.sum + startAtApply.toNat * amplitude = (n + 1) * amplitude
  /-- The first tick of an effect that starts at once makes the timer late by one tick, up to
  the first update that is shorter than the amplitude. -/
  late : effect.periodicTimer = 0 ↔ startAtApply = true ∧ ∀ time ∈ times, time = amplitude

namespace Paced

/-- Every update of at most the amplitude keeps the pace. -/
theorem update (paced : Paced amplitude startAtApply times n effect) {base : Aura} {time : Nat}
    (running : 0 ≤ base.duration) (narrow : amplitude < 2 ^ 31) (often : time ≤ amplitude) :
    Paced amplitude startAtApply (times ++ [time]) (n + (effect.update base time).2.toNat)
      (effect.update base time).1 := by
  obtain ⟨periodic, same, start, number, low, high, timer, late⟩ := paced
  have sum : ((times ++ [time]).sum : Int) = times.sum + time := by simp
  have lateNow : (∀ t ∈ times ++ [time], t = amplitude) ↔
      (∀ t ∈ times, t = amplitude) ∧ time = amplitude := by simp [or_imp, forall_and]
  unfold AuraEffect.update
  rw [if_pos (by simp [periodic, running]), toInt32_of_lt (by omega)]
  split
  · rename_i more
    have left : toInt32 (effect.periodicTimer - time) = effect.periodicTimer - time :=
      toInt32_of_between (by omega) (by omega)
    refine ⟨periodic, same, start, number, ?_, ?_, ?_, ?_⟩
    · dsimp only
      omega
    · dsimp only
      omega
    · simp only [left, sum, Bool.toNat_false, Nat.add_zero]
      omega
    · rw [lateNow]
      simp only [left]
      have still := late.not.mp (by omega)
      constructor
      · omega
      · exact fun always => absurd ⟨always.1, always.2.1⟩ still
  · rename_i over_
    have left : toInt32 (effect.periodicTimer + (effect.amplitude - time)) =
        effect.periodicTimer + (amplitude - time) := by
      rw [same]
      exact toInt32_of_between (by omega) (by omega)
    refine ⟨periodic, same, start, ?_, ?_, ?_, ?_, ?_⟩
    · simp only [toUInt32, number, Bool.toNat_true]
      omega
    · dsimp only
      omega
    · dsimp only
      omega
    · simp only [left, sum, Bool.toNat_true]
      rw [Int.natCast_add n 1, Int.natCast_one, Int.add_mul (n + 1) 1, Int.one_mul]
      omega
    · rw [lateNow, ← and_assoc, ← late]
      simp only [left]
      omega

theorem count (paced : Paced amplitude startAtApply times n effect) (beating : 0 < amplitude) :
    n = if startAtApply = true ∧ ∀ time ∈ times, time = amplitude then times.length
      else times.sum / amplitude + startAtApply.toNat := by
  obtain ⟨-, -, -, -, low, high, timer, late⟩ := paced
  lift effect.periodicTimer to Nat using low with rest
  norm_cast at high timer
  have positive : rest = 0 ↔ startAtApply = true ∧ ∀ time ∈ times, time = amplitude := by
    exact_mod_cast late
  by_cases always : startAtApply = true ∧ ∀ time ∈ times, time = amplitude
  · have sum : times.sum = times.length * amplitude := sum_eq_card_nsmul _ _ always.2
    rw [positive.mpr always, always.1, sum, Bool.toNat_true, Nat.zero_add, ← Nat.add_mul] at timer
    rw [if_pos always]
    exact Nat.succ.inj (Nat.eq_of_mul_eq_mul_right beating timer.symm)
  · have some_ : rest ≠ 0 := positive.not.mpr always
    rw [if_neg always, ← Nat.add_mul_div_right _ _ beating]
    symm
    apply Nat.div_eq_of_lt_le
    · rw [Nat.add_mul, Nat.one_mul] at timer
      omega
    · omega

end Paced

/-- The aura after the updates, before it expires. -/
structure Aged (maxDuration amplitude : Nat) (startAtApply isPassive : Bool) (times : List Nat)
    (n : Nat) (owned : OwnedAura) : Prop where
  base : owned.base = ⟨isPassive, maxDuration, maxDuration - times.sum⟩
  young : times.sum < maxDuration
  paced : Paced amplitude startAtApply times n owned.effect

theorem aged_create (lasting : 0 < maxDuration) (beating : 0 < amplitude) :
    Aged maxDuration amplitude startAtApply isPassive [] 0
      (create isPassive maxDuration amplitude startAtApply) := by
  refine ⟨by simp [create], lasting, ?_⟩
  cases startAtApply <;>
    constructor <;> simp [create, AuraEffect.calculatePeriodic, beating.ne']

theorem Aged.update (aged : Aged maxDuration amplitude startAtApply isPassive times n owned)
    (short : maxDuration < 2 ^ 31) (narrow : amplitude < 2 ^ 31) {time : Nat}
    (often : time ≤ amplitude) :
    ∃ effect, Paced amplitude startAtApply (times ++ [time])
        (n + (updateSpells (some owned) time).2.toNat) effect ∧
      (updateSpells (some owned) time).1 = if times.sum + time < maxDuration then
        some ⟨⟨isPassive, maxDuration, maxDuration - (times ++ [time]).sum⟩, effect⟩ else none := by
  have sum : ((times ++ [time]).sum : Int) = times.sum + time := by simp
  have young := aged.young
  have left : owned.base.update time =
      ⟨isPassive, maxDuration, max 0 (maxDuration - (times.sum + time))⟩ := by
    have low : toInt32 (maxDuration - times.sum - time) = maxDuration - times.sum - time := by
      unfold toInt32
      rw [Int.bmod_def]
      omega
    unfold Aura.update
    rw [aged.base, if_pos (by dsimp only; omega), low, Int.sub_sub]
  have running : 0 ≤ (owned.base.update time).duration := by
    apply Aura.update_running
    rw [aged.base]
    dsimp only
    omega
  refine ⟨_, aged.paced.update running narrow often, ?_⟩
  simp only [updateSpells, left, Aura.isExpired, sum]
  by_cases more : times.sum + time < maxDuration
  · rw [if_pos more, Int.max_eq_right (by omega), if_neg (by rw [beq_iff_eq]; omega)]
  · rw [if_neg more, Int.max_eq_left (by omega), if_pos (by simp)]

theorem aged_run (lasting : 0 < maxDuration) (short : maxDuration < 2 ^ 31)
    (beating : 0 < amplitude) (narrow : amplitude < 2 ^ 31) (often : ∀ time ∈ times, time ≤ amplitude)
    (alive : life isPassive maxDuration amplitude startAtApply times = some owned) :
    Aged maxDuration amplitude startAtApply isPassive times
      (ticksMade isPassive maxDuration amplitude startAtApply times)
      owned := by
  induction times using List.reverseRecOn generalizing owned with
  | nil =>
    obtain rfl := Option.some.inj alive
    exact aged_create lasting beating
  | append_singleton times time ih =>
    rw [life_append] at alive
    rw [ticksMade_append]
    cases earlier : life isPassive maxDuration amplitude startAtApply times with
    | none =>
      rw [earlier] at alive
      cases alive
    | some before =>
      rw [earlier] at alive
      have aged := ih (fun t here => often t (mem_append_left _ here)) earlier
      obtain ⟨effect, paced, is⟩ := aged.update short narrow
        (often time (mem_append_right _ mem_cons_self))
      rw [is] at alive
      split at alive
      · rename_i young
        cases alive
        exact ⟨rfl, by simpa using young, paced⟩
      · cases alive

/-- When the last update is not too late for the number of ticks. -/
def Exact (maxDuration amplitude : Nat) (startAtApply : Bool) (times : List Nat) : Prop :=
  if startAtApply = true ∧ ∀ time ∈ times, time = amplitude then ¬ amplitude ∣ maxDuration
  else times.sum < (maxDuration / amplitude + 1) * amplitude

/-- The ticks of an aura that is updated until it expires. -/
theorem ticks_fixed_iff (lasting : 0 < maxDuration) (short : maxDuration < 2 ^ 31)
    (beating : 0 < amplitude) (narrow : amplitude < 2 ^ 31) (before : List Nat) (last : Nat)
    (often : ∀ time ∈ before ++ [last], time ≤ amplitude)
    (alive : life isPassive maxDuration amplitude startAtApply before ≠ none)
    (gone : life isPassive maxDuration amplitude startAtApply (before ++ [last]) = none) :
    ticksMade isPassive maxDuration amplitude startAtApply (before ++ [last]) =
        maxDuration / amplitude + startAtApply.toNat ↔
      Exact maxDuration amplitude startAtApply (before ++ [last]) := by
  obtain ⟨owned, here⟩ := Option.ne_none_iff_exists'.mp alive
  have aged := aged_run lasting short beating narrow
    (fun t there => often t (mem_append_left _ there)) here
  obtain ⟨effect, paced, is⟩ := aged.update short narrow
    (often last (mem_append_right _ mem_cons_self))
  rw [life_append, here, is, ite_eq_right_iff] at gone
  have over_ : maxDuration ≤ before.sum + last := Nat.le_of_not_lt fun more => nomatch gone more
  have young := aged.young
  have whole : (before ++ [last]).sum = before.sum + last := by simp
  rw [ticksMade_append, here, paced.count beating]
  unfold Exact
  split
  · rename_i always
    have sum : before.sum + last = (before ++ [last]).length * amplitude := by
      rw [← whole]
      exact sum_eq_card_nsmul _ _ always.2
    have unit := always.2 last (mem_append_right _ mem_cons_self)
    rw [always.1, Bool.toNat_true, Nat.dvd_iff_mod_eq_zero]
    generalize (before ++ [last]).length = length at *
    have parts := Nat.div_add_mod' maxDuration amplitude
    have part := Nat.mod_lt maxDuration beating
    have next : (maxDuration / amplitude + 1) * amplitude =
        maxDuration / amplitude * amplitude + amplitude := Nat.succ_mul _ _
    by_cases none : maxDuration % amplitude = 0
    · have fewer : length < maxDuration / amplitude + 1 :=
        Nat.lt_of_mul_lt_mul_right (a := amplitude) (by omega)
      exact iff_of_false (by omega) (not_not_intro none)
    · have more : maxDuration / amplitude < length :=
        Nat.lt_of_mul_lt_mul_right (a := amplitude) (by omega)
      have fewer : length < maxDuration / amplitude + 1 + 1 :=
        Nat.lt_of_mul_lt_mul_right (a := amplitude) (by
          rw [Nat.add_mul _ 1, Nat.one_mul]
          omega)
      exact iff_of_true (by omega) none
  · have least := Nat.div_le_div_right (c := amplitude) over_
    rw [Nat.add_right_cancel_iff, whole, ← Nat.div_lt_iff_lt_mul beating]
    omega

theorem ticks_fixed_short : ticksMade false 10 4 false ([3, 4] ++ [3]) =
    10 / 4 + false.toNat :=
  (ticks_fixed_iff (by decide) (by decide) (by decide) (by decide) [3, 4] 3 (by decide) (by decide)
    (by decide)).mpr (by simp [Exact])

/-- Two slicings of the ten seconds of an aura that ticks each four seconds. -/
theorem ticks_of_slices :
    (∀ time ∈ [4000, 4000, 4000], time ≤ 4000) ∧
    life false 10000 4000 false [4000, 4000] ≠ none ∧
    life false 10000 4000 false [4000, 4000, 4000] = none ∧
    ticksMade false 10000 4000 false [4000, 4000, 4000] = 3 ∧
    life false 10000 4000 false [4000, 4000, 2000] = none ∧
    ticksMade false 10000 4000 false [4000, 4000, 2000] = 2 := by
  decide

/-- Effects that differ in the tick number at most. -/
def Alike (first second : AuraEffect) : Prop :=
  first = { second with tickNumber := first.tickNumber }

theorem Alike.of_fields {first second : AuraEffect}
    (periodic : first.isPeriodic = second.isPeriodic)
    (amplitude : first.amplitude = second.amplitude)
    (starts : first.startAtApply = second.startAtApply)
    (timer : first.periodicTimer = second.periodicTimer) : Alike first second := by
  cases first
  cases second
  simp only at periodic amplitude starts timer
  subst periodic amplitude starts timer
  rfl

theorem Alike.update {first second : AuraEffect} (alike : Alike first second) (base : Aura)
    (time : Nat) : Alike (first.update base time).1 (second.update base time).1 ∧
      (first.update base time).2 = (second.update base time).2 := by
  rw [alike]
  unfold AuraEffect.update Alike
  split
  · split <;> exact ⟨rfl, rfl⟩
  · exact ⟨rfl, rfl⟩

theorem ticks_of_alike (base : Aura) {first second : AuraEffect} (alike : Alike first second)
    (times : List Nat) : ticks (some ⟨base, first⟩) times = ticks (some ⟨base, second⟩) times := by
  induction times generalizing base first second with
  | nil => rfl
  | cons time times ih =>
    obtain ⟨after, same⟩ := alike.update (base.update time) time
    simp only [ticks, Run.trace, map_cons, Run.take_out, updateSpells, same]
    congr 1
    split
    · rfl
    · exact ih _ after

theorem reload_eq (aged : Aged maxDuration amplitude false isPassive times n owned)
    (beating : 0 < amplitude) (short : maxDuration < 2 ^ 31) :
    reload owned = ⟨owned.base, ⟨true, amplitude, false,
      ((maxDuration - times.sum) % amplitude : Nat), (maxDuration - times.sum) / amplitude⟩⟩ := by
  have left : (maxDuration : Int) - times.sum = (maxDuration - times.sum : Nat) := by
    have young := aged.young
    omega
  have some_ : (amplitude : Int) ≠ 0 := by omega
  have small := Nat.div_le_self (maxDuration - times.sum) amplitude
  simp only [reload, setLoadedState, create, AuraEffect.calculatePeriodic, aged.base,
    aged.paced.steady, aged.paced.starts, if_true, Bool.false_eq_true, if_false, if_neg some_,
    left, ← Int.ofNat_tdiv, ← Int.ofNat_tmod, Bool.toNat_false, Int.natCast_zero, Int.add_zero]
  rw [toUInt32_of_lt _ (by omega)]

/-- A saved aura is loaded with the same ticks ahead, and the number of those made. -/
theorem reload_alike_iff (lasting : 0 < maxDuration) (short : maxDuration < 2 ^ 31)
    (beating : 0 < amplitude) (narrow : amplitude < 2 ^ 31) (whole : amplitude ∣ maxDuration)
    (often : ∀ time ∈ times, time ≤ amplitude)
    (alive : life isPassive maxDuration amplitude false times = some owned) :
    ((∀ further, ticks (some (reload owned)) further = ticks (some owned) further) ∧
        (reload owned).effect.tickNumber = ticksMade isPassive maxDuration amplitude false times) ↔
      ¬ amplitude ∣ times.sum ∧ maxDuration / amplitude = 2 * (times.sum / amplitude) + 1 := by
  have aged := aged_run lasting short beating narrow often alive
  have made := aged.paced.count beating
  rw [if_neg nofun, Bool.toNat_false, Nat.add_zero] at made
  have timer := aged.paced.timer
  rw [reload_eq aged beating short, made]
  dsimp only
  rw [made] at timer
  have young := aged.young
  obtain ⟨quotient, rfl⟩ := whole
  rw [Nat.mul_div_cancel_left _ beating]
  have parts := Nat.div_add_mod times.sum amplitude
  have part := Nat.mod_lt times.sum beating
  rw [Nat.dvd_iff_mod_eq_zero]
  generalize times.sum / amplitude = passed at *
  simp only [Bool.toNat_false, Int.natCast_zero, Int.zero_mul, Int.add_zero] at timer
  have pace : ((passed : Int) + 1) * amplitude = (amplitude * passed : Nat) + amplitude := by
    push_cast
    rw [Int.add_mul, Int.one_mul, Int.mul_comm]
  by_cases none : times.sum % amplitude = 0
  · -- the effect just ticked: it is loaded with a timer that has run out
    refine iff_of_false (fun both => ?_) (fun both => both.1 none)
    have rest : (amplitude * quotient - times.sum) % amplitude = 0 := by
      rw [← parts, none, Nat.add_zero, ← Nat.mul_sub]
      exact Nat.mul_mod_right _ _
    have running : 0 ≤ (owned.base.update 0).duration := by
      apply Aura.update_running
      rw [aged.base]
      dsimp only
      omega
    have now : (AuraEffect.update _ 0 _).2 = (owned.effect.update (owned.base.update 0) 0).2 :=
      head_eq_of_cons_eq (both.1 [0])
    rw [AuraEffect.update_ticks running rfl, AuraEffect.update_ticks running aged.paced.periodic,
      rest, decide_eq_decide, toInt32_of_lt (by omega)] at now
    dsimp only at now
    omega
  · have more : passed < quotient := Nat.lt_of_mul_lt_mul_left (a := amplitude) (by omega)
    have rest : (amplitude * quotient - times.sum) / amplitude = quotient - passed - 1 ∧
        (amplitude * quotient - times.sum) % amplitude = amplitude - times.sum % amplitude := by
      have whole : amplitude * quotient =
          amplitude * (quotient - passed - 1) + amplitude * passed + amplitude := by
        rw [← Nat.mul_add, ← Nat.mul_succ]
        congr 1
        omega
      rw [Nat.div_mod_unique beating]
      omega
    have alike : Alike ⟨true, amplitude, false,
        ((amplitude * quotient - times.sum) % amplitude : Nat),
        (amplitude * quotient - times.sum) / amplitude⟩ owned.effect := by
      refine Alike.of_fields aged.paced.periodic.symm aged.paced.steady.symm
        aged.paced.starts.symm ?_
      simp only [rest.2]
      omega
    rw [and_iff_right (ticks_of_alike owned.base alike), and_iff_right none, rest.1]
    omega

/-- Of ten seconds with a tick each two, five are over. -/
def halfOver : OwnedAura := ⟨⟨false, 10000, 5000⟩, ⟨true, 2000, false, 1000, 2⟩⟩

theorem reload_alike_half : ticks (some (reload halfOver)) [1000] = ticks (some halfOver) [1000] ∧
    (reload halfOver).effect.tickNumber = ticksMade false 10000 2000 false [2000, 2000, 1000] :=
  have both := (@reload_alike_iff 10000 2000 false [2000, 2000, 1000] halfOver (by decide)
    (by decide) (by decide) (by decide) (by decide) (by decide) (by decide)).mpr (by decide)
  ⟨both.1 [1000], both.2⟩

def justTicked : OwnedAura := ⟨⟨false, 10000, 8000⟩, ⟨true, 2000, false, 2000, 1⟩⟩

theorem reload_just_ticked :
    life false 10000 2000 false [2000] = some justTicked ∧
    ticks (some justTicked) [100] = [false] ∧ ticks (some (reload justTicked)) [100] = [true] ∧
    ticksMade false 10000 2000 false [2000] = 1 ∧
    (reload justTicked).effect.tickNumber = 4 := by
  decide

end

end OpenWoW.PeriodicAuras
