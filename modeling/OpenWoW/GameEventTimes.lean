import Mathlib.Data.Finset.Sort
import OpenWoW.Lib.Checked

/-! When game events are active, and when they are looked at again. -/
namespace OpenWoW.GameEvents

open Option

def minute : Int := 60
def maxGeCheckDelay : Nat := 86400

inductive GameEventState where
  | normal
  | worldInactive
  | worldConditions
  | worldNextphase
  | worldFinished
  | internal
  /-- A number without a name. -/
  | unknown
  deriving DecidableEq, Repr

/-- `start` is 1 and `end` 0 in an entry that was not loaded. -/
structure GameEventData where
  start : Int64 := 1
  endTime : Int64 := 0
  nextstart : Int64 := 0
  occurence : UInt32 := 0
  length : UInt32 := 0
  state : GameEventState := .normal
  prerequisiteEvents : List Nat := []
  deriving DecidableEq

/-- A row of `game_event`. -/
structure EventRow where
  eventEntry : UInt8
  startTime : UInt64
  endTime : UInt64
  occurence : UInt64
  length : UInt64
  worldEvent : GameEventState

namespace EventRow

def load (row : EventRow) : GameEventData where
  start := row.startTime.toInt64
  endTime := row.endTime.toInt64
  occurence := row.occurence.toUInt32
  length := row.length.toUInt32
  state := row.worldEvent

/-- Entry 0 is reserved, and a normal event has a length. -/
def accepted (row : EventRow) : Bool :=
  row.eventEntry ≠ 0 ∧ ¬ (row.load.length = 0 ∧ row.load.state = .normal)

end EventRow

/-- The seconds of a number of minutes, as 32 bits. -/
def minutes (n : UInt32) : Checked Nat := .unsigned 32 (n.toNat * minute)

/-- `(currenttime - start) % (occurence * MINUTE)`. -/
def GameEventData.phase (event : GameEventData) (now : Int64) : Checked Int := do
  let passed ← .signed (now.toInt - event.start.toInt)
  let period ← minutes event.occurence
  .remainder passed period

def checkOneGameEvent (events : List GameEventData) (event : GameEventData) (now : Int64) :
    Checked Bool :=
  match event.state with
  | .worldConditions | .worldNextphase => pure true
  | .worldFinished | .internal => pure false
  | .worldInactive =>
    pure (decide (event.prerequisiteEvents ≠ []) && event.prerequisiteEvents.all fun other =>
      let needed := events[other]?.getD {}
      decide (needed.state = .worldNextphase ∨ needed.state = .worldFinished) &&
        decide (needed.nextstart.toInt ≤ now.toInt))
  | .normal | .unknown =>
    if event.start.toInt < now.toInt ∧ now.toInt < event.endTime.toInt then do
      let phase ← event.phase now
      let length ← minutes event.length
      pure (decide (phase < length))
    else pure false

/-- The window ends, or the next one begins. -/
def GameEventData.delay (event : GameEventData) (now : Int64) : Checked Nat := do
  let phase ← event.phase now
  let length ← minutes event.length
  if phase < length then .unsigned 32 (length - phase)
  else do
    let period ← minutes event.occurence
    .unsigned 32 (period - phase)

def nextCheck (event : GameEventData) (now : Int64) : Checked Nat :=
  if (event.state = .worldNextphase ∨ event.state = .worldFinished) ∧
      now.toInt ≤ event.nextstart.toInt then do
    let left ← .signed (event.nextstart.toInt - now.toInt)
    .unsigned 32 left
  else if event.state = .worldConditions then
    if event.length ≠ 0 then minutes event.length else pure maxGeCheckDelay
  else if event.endTime.toInt < now.toInt then pure maxGeCheckDelay
  else if now.toInt < event.start.toInt then do
    let left ← .signed (event.start.toInt - now.toInt)
    .unsigned 32 left
  else do
    let delay ← event.delay now
    let next ← .signed (now.toInt + delay)
    if event.endTime.toInt < next then do
      let left ← .signed (event.endTime.toInt - now.toInt)
      .unsigned 32 left
    else pure delay

structure GameEventMgr where
  events : List GameEventData
  activeEvents : Finset Nat

def checkOneGameEventConditions (met : Bool) (event : GameEventData) (now : Int64) :
    Checked (Bool × GameEventData) :=
  if ¬ met then pure (false, event)
  else if event.nextstart = 0 then do
    let wait ← minutes event.length
    let next ← .signed (now.toInt + wait)
    pure (true, { event with state := .worldNextphase, nextstart := .ofInt next })
  else pure (true, { event with state := .worldNextphase })

def checkConditions (met : Bool) (event : GameEventData) (now : Int64) :
    Checked (Bool × GameEventData) :=
  if event.state = .worldConditions then checkOneGameEventConditions met event now
  else pure (false, event)

/-- What the loop ended the events collects. -/
structure Queue where
  events : List GameEventData
  activate : Finset Nat
  deactivate : Finset Nat
  nextEventDelay : Nat

/-- `NextCheck` of the event may bring the next update forward. -/
def Queue.look (queue : Queue) (event : GameEventData) (now : Int64) : Checked Queue := do
  let calcDelay ← nextCheck event now
  pure (if calcDelay < queue.nextEventDelay then { queue with nextEventDelay := calcDelay }
    else queue)

def updateOne (met : Nat → Bool) (active : Finset Nat) (now : Int64) (queue : Queue)
    (itr : Nat) : Checked Queue := do
  let event := queue.events[itr]?.getD {}
  let check ← checkOneGameEvent queue.events event now
  if check then
    if event.state = .worldNextphase ∧ event.nextstart.toInt ≤ now.toInt then
      pure { queue with
        events := queue.events.set itr { event with state := .worldFinished, nextstart := 0 }
        deactivate :=
          if itr ∈ active then insert itr queue.deactivate else queue.deactivate }
    else do
      let checked ← checkConditions (met itr) event now
      let queue := { queue with
        events := queue.events.set itr checked.2
        activate := if itr ∈ active then queue.activate else insert itr queue.activate }
      queue.look checked.2 now
  else do
    let queue := { queue with
      deactivate := if itr ∈ active then insert itr queue.deactivate else queue.deactivate }
    queue.look event now

/-- Whether the event is completed at once, and what it becomes. -/
def startEvent (met : Bool) (event : GameEventData) (now : Int64) :
    Checked (Bool × GameEventData) :=
  if event.state = .normal ∨ event.state = .internal then pure (false, event)
  else
    checkOneGameEventConditions met
      (if event.state = .worldInactive then { event with state := .worldConditions } else event) now

def stopEvent (event : GameEventData) : GameEventData :=
  if event.state = .normal ∨ event.state = .internal ∨ event.state = .worldFinished then event
  else { event with state := .worldInactive, nextstart := 0 }

def startOne (met : Nat → Bool) (now : Int64) (queue : Queue) (itr : Nat) : Checked Queue := do
  let started ← startEvent (met itr) (queue.events[itr]?.getD {}) now
  let queue := { queue with events := queue.events.set itr started.2 }
  pure (if started.1 then { queue with nextEventDelay := 0 } else queue)

/-- The delay in milliseconds. -/
def GameEventMgr.update (met : Nat → Bool) (mgr : GameEventMgr) (now : Int64) :
    Checked (Nat × GameEventMgr) := do
  let queue ← (List.range' 1 (mgr.events.length - 1)).foldlM (updateOne met mgr.activeEvents now)
    ⟨mgr.events, ∅, ∅, maxGeCheckDelay⟩
  let queue ← (queue.activate.sort (· ≤ ·)).foldlM (startOne met now) queue
  let events := (queue.deactivate.sort (· ≤ ·)).foldl (fun events itr =>
    events.set itr (stopEvent (events[itr]?.getD {}))) queue.events
  let seconds ← .unsigned 32 (queue.nextEventDelay + 1)
  let delay ← .unsigned 32 (seconds * 1000)
  pure (delay, ⟨events, (mgr.activeEvents ∪ queue.activate) \ queue.deactivate⟩)

namespace GameEventData

/-- The seconds from the beginning of a window to the next one, and of a window. -/
def period (event : GameEventData) : Int := event.occurence.toNat * minute

def span (event : GameEventData) : Int := event.length.toNat * minute

/-- The event runs at this time. -/
def Within (event : GameEventData) (t : Int) : Prop :=
  event.start.toInt < t ∧ t < event.endTime.toInt ∧
    (t - event.start.toInt) % event.period < event.span

instance (event : GameEventData) (t : Int) : Decidable (event.Within t) :=
  inferInstanceAs (Decidable (event.start.toInt < t ∧ t < event.endTime.toInt ∧
    (t - event.start.toInt) % event.period < event.span))

/-- The seconds to the end of the window, or to the next window. -/
def remaining (event : GameEventData) (now : Int64) : Int :=
  if (now.toInt - event.start.toInt) % event.period < event.span then
    event.span - (now.toInt - event.start.toInt) % event.period
  else event.period - (now.toInt - event.start.toInt) % event.period

/-- The seconds to the next change between start and end. -/
def reach (event : GameEventData) (now : Int64) : Int :=
  min (event.remaining now) (event.endTime.toInt - now.toInt)

/-- The numbers of minutes fit as seconds, and the windows come again. -/
structure Sized (event : GameEventData) : Prop where
  occurence : event.occurence ≠ 0
  period : event.period < 2 ^ 32
  span : event.span < 2 ^ 32

variable (event : GameEventData)

theorem period_pos {event : GameEventData} (often : event.occurence ≠ 0) : 0 < event.period := by
  have positive : event.occurence.toNat ≠ 0 := fun zero => often (UInt32.toNat_inj.mp zero)
  unfold period minute
  omega

theorem remaining_pos {event : GameEventData} (often : event.occurence ≠ 0) (now : Int64) :
    0 < event.remaining now := by
  have below := Int.emod_lt_of_pos (now.toInt - event.start.toInt) (period_pos often)
  unfold remaining
  split <;> omega

theorem remaining_lt (sized : event.Sized) (now : Int64) : event.remaining now < 2 ^ 32 := by
  have lower := Int.emod_nonneg (now.toInt - event.start.toInt)
    (ne_of_gt (period_pos sized.occurence))
  have period := sized.period
  have span := sized.span
  unfold remaining
  split <;> omega

end GameEventData

open Checked (Exact exact_pure exact_bind exact_unsigned exact_signed exact_remainder)

variable {seconds : Nat}

theorem exact_minutes {n : UInt32} :
    Exact (minutes n) seconds ↔
      n.toNat * minute = (seconds : Int) ∧ n.toNat * minute < 2 ^ 32 := exact_unsigned

variable {now : Int64}

theorem exact_phase {event : GameEventData} (begun : event.start.toInt ≤ now.toInt) {phase : Int} :
    Exact (event.phase now) phase ↔ now.toInt - event.start.toInt < 2 ^ 63 ∧
      event.period < 2 ^ 32 ∧ event.occurence ≠ 0 ∧
        (now.toInt - event.start.toInt) % event.period = phase := by
  unfold GameEventData.phase
  simp only [exact_bind, exact_signed, exact_minutes, exact_remainder]
  have nonneg : 0 ≤ now.toInt - event.start.toInt := by omega
  constructor
  · rintro ⟨_, ⟨⟨_, fits⟩, rfl⟩, seconds, ⟨same, small⟩, often, rfl⟩
    refine ⟨fits, small, ?_, ?_⟩
    · rintro zero
      rw [zero] at same
      exact often same.symm
    · rw [← same, Int.tmod_eq_emod_of_nonneg nonneg]
      rfl
  · rintro ⟨fits, small, often, rfl⟩
    refine ⟨_, ⟨⟨by omega, fits⟩, rfl⟩, (event.occurence.toNat * 60 : Nat), ⟨?_, small⟩, ?_, ?_⟩
    · rw [Nat.cast_mul]
      rfl
    · have positive := GameEventData.period_pos often
      unfold GameEventData.period minute at positive
      omega
    · rw [Int.tmod_eq_emod_of_nonneg nonneg, Nat.cast_mul]
      rfl

theorem exact_check {event : GameEventData} (normal : event.state = .normal)
    (events : List GameEventData) (now : Int64) (active : Bool) :
    Exact (checkOneGameEvent events event now) active ↔
      if event.start.toInt < now.toInt ∧ now.toInt < event.endTime.toInt then
        now.toInt - event.start.toInt < 2 ^ 63 ∧ event.Sized ∧
          (active = true ↔ (now.toInt - event.start.toInt) % event.period < event.span)
      else active = false := by
  unfold checkOneGameEvent
  rw [normal]
  dsimp only
  split
  · rename_i inside
    simp only [exact_bind, exact_minutes, exact_pure, exact_phase (le_of_lt inside.1)]
    constructor
    · rintro ⟨phase, ⟨fits, small, often, rfl⟩, seconds, ⟨same, short⟩, rfl⟩
      refine ⟨fits, ⟨often, small, short⟩, ?_⟩
      rw [decide_eq_true_iff, ← same]
      rfl
    · rintro ⟨fits, ⟨often, small, short⟩, same⟩
      have span : event.length.toNat * minute = ((event.length.toNat * 60 : Nat) : Int) := by
        rw [Nat.cast_mul]
        rfl
      refine ⟨_, ⟨fits, small, often, rfl⟩, _, ⟨span, short⟩, ?_⟩
      rw [← span]
      exact Bool.eq_iff_iff.mpr (decide_eq_true_iff.trans same.symm)
  · rw [exact_pure]
    exact eq_comm

theorem exact_delay {event : GameEventData} (begun : event.start.toInt ≤ now.toInt) {delay : Nat} :
    Exact (event.delay now) delay ↔
      now.toInt - event.start.toInt < 2 ^ 63 ∧ event.Sized ∧ event.remaining now = delay := by
  unfold GameEventData.delay GameEventData.remaining
  simp only [exact_bind, exact_minutes, exact_phase begun]
  have lower : ∀ often : event.occurence ≠ 0,
      0 ≤ (now.toInt - event.start.toInt) % event.period :=
    fun often => Int.emod_nonneg _ (ne_of_gt (GameEventData.period_pos often))
  constructor
  · rintro ⟨phase, ⟨fits, small, often, rfl⟩, seconds, ⟨same, short⟩, rest⟩
    change event.span = _ at same
    rw [← same] at rest
    refine ⟨fits, ⟨often, small, short⟩, ?_⟩
    split
    · rename_i open'
      rw [if_pos open', exact_unsigned] at rest
      exact rest.1
    rename_i closed
    rw [if_neg closed] at rest
    obtain ⟨more, also, rest⟩ := exact_bind.mp rest
    rw [exact_minutes] at also
    rw [exact_unsigned, ← also.1] at rest
    exact rest.1
  · rintro ⟨fits, ⟨often, small, short⟩, value⟩
    have span : event.span = ((event.length.toNat * 60 : Nat) : Int) := by
      unfold GameEventData.span
      rw [Nat.cast_mul]
      rfl
    have period : event.period = ((event.occurence.toNat * 60 : Nat) : Int) := by
      unfold GameEventData.period
      rw [Nat.cast_mul]
      rfl
    have positive := lower often
    refine ⟨_, ⟨fits, small, often, rfl⟩, _, ⟨span, short⟩, ?_⟩
    rw [← span]
    split
    · rename_i open'
      rw [if_pos open'] at value
      exact exact_unsigned.mpr ⟨value, by omega⟩
    rename_i closed
    rw [if_neg closed] at value
    refine exact_bind.mpr ⟨_, exact_minutes.mpr ⟨period, small⟩, exact_unsigned.mpr ?_⟩
    rw [← period]
    exact ⟨value, by omega⟩

/-- The checks of the code go in this order. -/
theorem exact_nextCheck {event : GameEventData} (normal : event.state = .normal) (now : Int64)
    (delay : Nat) :
    Exact (nextCheck event now) delay ↔
      if event.endTime.toInt < now.toInt then delay = maxGeCheckDelay
      else if now.toInt < event.start.toInt then
        event.start.toInt - now.toInt < 2 ^ 32 ∧ event.start.toInt - now.toInt = delay
      else now.toInt - event.start.toInt < 2 ^ 63 ∧ event.Sized ∧
        now.toInt + event.remaining now < 2 ^ 63 ∧ event.reach now = delay := by
  have upper := event.endTime.toInt_lt
  have lower := now.le_toInt
  unfold nextCheck
  rw [normal, if_neg (by simp), if_neg nofun]
  by_cases ended : event.endTime.toInt < now.toInt
  · rw [if_pos ended, if_pos ended, exact_pure]
    exact eq_comm
  rw [if_neg ended, if_neg ended]
  by_cases early : now.toInt < event.start.toInt
  · rw [if_pos early, if_pos early]
    simp only [exact_bind, exact_signed, exact_unsigned]
    constructor
    · rintro ⟨_, ⟨_, rfl⟩, same, small⟩
      exact ⟨small, same⟩
    · rintro ⟨small, same⟩
      exact ⟨_, ⟨⟨by omega, by omega⟩, rfl⟩, same, small⟩
  · rw [if_neg early, if_neg early]
    have begun := not_lt.mp early
    simp only [exact_bind, exact_delay begun, exact_signed]
    unfold GameEventData.reach
    constructor
    · rintro ⟨left, ⟨fits, sized, same⟩, _, ⟨⟨_, next⟩, rfl⟩, rest⟩
      rw [same]
      refine ⟨fits, sized, next, ?_⟩
      split at rest
      · obtain ⟨_, also, rest⟩ := exact_bind.mp rest
        rw [exact_signed] at also
        rw [exact_unsigned] at rest
        omega
      · rw [exact_pure] at rest
        omega
    · rintro ⟨fits, sized, next, same⟩
      have positive := GameEventData.remaining_pos sized.occurence now
      have small := event.remaining_lt sized now
      obtain ⟨left, value⟩ := Int.eq_ofNat_of_zero_le (le_of_lt positive)
      rw [value] at next same small
      refine ⟨left, ⟨fits, sized, value⟩, _, ⟨⟨by omega, next⟩, rfl⟩, ?_⟩
      split
      · refine exact_bind.mpr ⟨_, exact_signed.mpr ⟨⟨by omega, by omega⟩, rfl⟩, ?_⟩
        rw [exact_unsigned]
        omega
      · rw [exact_pure]
        omega

/-- Both functions compute exactly; the event is active within its windows, and stays so, or not,
until the next check. -/
structure Timely (events : List GameEventData) (event : GameEventData) (now : Int64) : Prop where
  check : ∃ active, Exact (checkOneGameEvent events event now) active ∧
    (active = true ↔ event.Within now.toInt)
  next : ∃ delay, Exact (nextCheck event now) delay ∧
    ∀ t : Int64, now.toInt ≤ t.toInt → t.toInt < now.toInt + delay →
      (checkOneGameEvent events event t).value = (checkOneGameEvent events event now).value

/-- Between start and end the times stay within 64 bits up to the next change, and the start is
not this very second, unless the end comes with the next one. -/
structure Inside (event : GameEventData) (now : Int64) : Prop where
  sized : event.Sized
  passed : now.toInt - event.start.toInt < 2 ^ 63
  next : now.toInt + event.remaining now < 2 ^ 63
  reach : now.toInt + event.reach now - event.start.toInt ≤ 2 ^ 63
  begun : ¬ (event.start.toInt = now.toInt ∧ now.toInt + 1 < event.endTime.toInt)

/-- Before its end an event starts within 32 bits, or is regular between start and end. -/
structure Regular (event : GameEventData) (now : Int64) : Prop where
  early : now.toInt ≤ event.endTime.toInt → now.toInt < event.start.toInt →
    event.start.toInt - now.toInt < 2 ^ 32
  inside : event.start.toInt ≤ now.toInt → now.toInt ≤ event.endTime.toInt → Inside event now

theorem phase_steady {passed more period span : Int} (positive : 0 < period) (later : 0 ≤ more)
    (soon : more < if passed % period < span then span - passed % period
      else period - passed % period) :
    (passed + more) % period < span ↔ passed % period < span := by
  have lower := Int.emod_nonneg passed (ne_of_gt positive)
  have step : (passed + more) % period = (passed % period + more) % period := by
    rw [Int.emod_add_emod]
  have below := Int.emod_lt_of_pos (passed % period + more) positive
  rw [step]
  by_cases turn : passed % period + more < period
  · rw [Int.emod_eq_of_lt (by omega) turn]
    split at soon <;> omega
  · split at soon <;> omega

theorem value_check {event : GameEventData} (normal : event.state = .normal) (sized : event.Sized)
    (events : List GameEventData) {t : Int64} (fits : t.toInt - event.start.toInt < 2 ^ 63) :
    (checkOneGameEvent events event t).value = some (decide (event.Within t.toInt)) := by
  refine Checked.Exact.value ((exact_check normal events t _).mpr ?_)
  split
  · rename_i inside
    refine ⟨fits, sized, decide_eq_true_iff.trans ?_⟩
    exact ⟨fun within => within.2.2, fun phase => ⟨inside.1, inside.2, phase⟩⟩
  · rename_i outside
    exact decide_eq_false fun within => outside ⟨within.1, within.2.1⟩

theorem value_overflow {event : GameEventData} (normal : event.state = .normal)
    (events : List GameEventData) {t : Int64}
    (inside : event.start.toInt < t.toInt ∧ t.toInt < event.endTime.toInt)
    (far : ¬ t.toInt - event.start.toInt < 2 ^ 63) :
    (checkOneGameEvent events event t).value = none := by
  unfold checkOneGameEvent GameEventData.phase Checked.signed
  rw [normal]
  dsimp only
  rw [if_pos inside, if_neg fun both => far both.2]
  rfl

theorem value_outside {event : GameEventData} (normal : event.state = .normal)
    (events : List GameEventData) {t : Int64}
    (outside : ¬ (event.start.toInt < t.toInt ∧ t.toInt < event.endTime.toInt)) :
    (checkOneGameEvent events event t).value = some false := by
  refine Checked.Exact.value ((exact_check normal events t _).mpr ?_)
  rw [if_neg outside]

theorem within_steady {event : GameEventData} (inside : Inside event now)
    (begun : event.start.toInt ≤ now.toInt) {t : Int} (later : now.toInt ≤ t)
    (soon : t < now.toInt + event.reach now) : event.Within t ↔ event.Within now.toInt := by
  have reach : event.reach now ≤ event.endTime.toInt - now.toInt := min_le_right _ _
  have left : event.reach now ≤ event.remaining now := min_le_left _ _
  by_cases start : event.start.toInt = now.toInt
  · have soonest : ¬ now.toInt + 1 < event.endTime.toInt := fun ends => inside.begun ⟨start, ends⟩
    have same : t = now.toInt := by omega
    rw [same]
  have more : t - event.start.toInt = (now.toInt - event.start.toInt) + (t - now.toInt) := by omega
  have phases : (t - event.start.toInt) % event.period < event.span ↔
      (now.toInt - event.start.toInt) % event.period < event.span := by
    rw [more]
    apply phase_steady (GameEventData.period_pos inside.sized.occurence) (by omega)
    unfold GameEventData.remaining at left
    omega
  unfold GameEventData.Within
  rw [phases]
  constructor
  · exact fun within => ⟨by omega, by omega, within.2.2⟩
  · exact fun within => ⟨by omega, by omega, within.2.2⟩

theorem steady_of_regular {event : GameEventData} (normal : event.state = .normal)
    (events : List GameEventData) (inside : Inside event now)
    (begun : event.start.toInt ≤ now.toInt) {t : Int64} (later : now.toInt ≤ t.toInt)
    (soon : t.toInt < now.toInt + event.reach now) :
    (checkOneGameEvent events event t).value = (checkOneGameEvent events event now).value := by
  have bound := inside.reach
  rw [value_check normal inside.sized events (by omega),
    value_check normal inside.sized events inside.passed]
  exact congrArg some (decide_eq_decide.mpr (within_steady inside begun later soon))

theorem timely_of_regular {event : GameEventData} (normal : event.state = .normal)
    (events : List GameEventData) (regular : Regular event now) : Timely events event now := by
  constructor
  · refine ⟨decide (event.Within now.toInt), (exact_check normal events now _).mpr ?_,
      decide_eq_true_iff⟩
    split
    · rename_i within
      have inside := regular.inside (le_of_lt within.1) (le_of_lt within.2)
      refine ⟨inside.passed, inside.sized, decide_eq_true_iff.trans ?_⟩
      exact ⟨fun both => both.2.2, fun phase => ⟨within.1, within.2, phase⟩⟩
    · rename_i outside
      exact decide_eq_false fun both => outside ⟨both.1, both.2.1⟩
  · by_cases ended : event.endTime.toInt < now.toInt
    · refine ⟨maxGeCheckDelay, (exact_nextCheck normal now _).mpr (by rw [if_pos ended]), ?_⟩
      intro t later _
      rw [value_outside normal events (by omega), value_outside normal events (by omega)]
    · by_cases before : now.toInt < event.start.toInt
      · have small := regular.early (by omega) before
        obtain ⟨delay, same⟩ :=
          Int.eq_ofNat_of_zero_le (show 0 ≤ event.start.toInt - now.toInt by omega)
        refine ⟨delay, (exact_nextCheck normal now _).mpr ?_, ?_⟩
        · rw [if_neg ended, if_pos before]
          exact ⟨small, same⟩
        · intro t _ soon
          rw [value_outside normal events (by omega), value_outside normal events (by omega)]
      · have inside := regular.inside (by omega) (by omega)
        have positive := GameEventData.remaining_pos inside.sized.occurence now
        have nonneg : 0 ≤ event.reach now := le_min (le_of_lt positive) (by omega)
        obtain ⟨delay, same⟩ := Int.eq_ofNat_of_zero_le nonneg
        refine ⟨delay, (exact_nextCheck normal now _).mpr ?_, ?_⟩
        · rw [if_neg ended, if_neg before]
          exact ⟨inside.passed, inside.sized, inside.next, same⟩
        · intro t later soon
          rw [← same] at soon
          exact steady_of_regular normal events inside (by omega) later soon

variable {events : List GameEventData}

theorem regular_of_timely {event : GameEventData} (normal : event.state = .normal)
    (long : event.length ≠ 0) (timely : Timely events event now) : Regular event now := by
  obtain ⟨⟨active, exact', _⟩, delay, next, steady⟩ := timely
  rw [exact_nextCheck normal] at next
  constructor
  · intro before early
    rw [if_neg (by omega), if_pos early] at next
    exact next.1
  · intro begun before
    rw [if_neg (by omega), if_neg (by omega)] at next
    obtain ⟨passed, sized, bound, same⟩ := next
    have positive := GameEventData.remaining_pos sized.occurence now
    have reach : event.reach now ≤ event.endTime.toInt - now.toInt := min_le_right _ _
    refine ⟨sized, passed, bound, ?_, ?_⟩
    · by_contra far
      have upper := event.endTime.toInt_lt
      have lower := now.le_toInt
      have last : (Int64.ofInt (now.toInt + event.reach now - 1)).toInt =
          now.toInt + event.reach now - 1 := Int64.toInt_ofInt_of_le (by omega) (by omega)
      have value := steady (Int64.ofInt (now.toInt + event.reach now - 1)) (by omega) (by omega)
      rw [exact'.value, value_overflow normal events (by omega) (by omega)] at value
      cases value
    · rintro ⟨start, more⟩
      have upper := event.endTime.toInt_lt
      have lower := now.le_toInt
      have last : (Int64.ofInt (now.toInt + 1)).toInt = now.toInt + 1 :=
        Int64.toInt_ofInt_of_le (by omega) (by omega)
      have minutes : 60 ≤ event.span := by
        have positive : event.length.toNat ≠ 0 := fun zero => long (UInt32.toNat_inj.mp zero)
        unfold GameEventData.span minute
        omega
      have periods : 60 ≤ event.period := by
        have positive : event.occurence.toNat ≠ 0 :=
          fun zero => sized.occurence (UInt32.toNat_inj.mp zero)
        unfold GameEventData.period minute
        omega
      have wide : 2 ≤ event.reach now := by
        refine le_min ?_ (by omega)
        unfold GameEventData.remaining
        rw [start, sub_self, Int.zero_emod, if_pos (by omega)]
        omega
      have value := steady (Int64.ofInt (now.toInt + 1)) (by omega) (by omega)
      have one : now.toInt + 1 - event.start.toInt = 1 := by omega
      have within : event.Within (Int64.ofInt (now.toInt + 1)).toInt := by
        rw [last]
        refine ⟨by omega, by omega, ?_⟩
        rw [one, Int.emod_eq_of_lt (by omega) (by omega)]
        omega
      rw [value_outside normal events (t := now) (by omega),
        value_check normal sized events (by omega), decide_eq_true within] at value
      cases value

theorem timely_iff_regular {event : GameEventData} (normal : event.state = .normal)
    (long : event.length ≠ 0) (events : List GameEventData) (now : Int64) :
    Timely events event now ↔ Regular event now :=
  ⟨regular_of_timely normal long, timely_of_regular normal events⟩

def NormalKept (events later : List GameEventData) : Prop :=
  ∀ (itr : Nat) (event : GameEventData), events[itr]? = some event → event.state = .normal →
    later[itr]? = some event

theorem NormalKept.trans {later last : List GameEventData} (kept : NormalKept events later)
    (again : NormalKept later last) : NormalKept events last :=
  fun itr event there normal => again itr event (kept itr event there normal) normal

theorem normalKept_set {itr : Nat} {event : GameEventData}
    (same : ∀ was, events[itr]? = some was → was.state = .normal → event = was) :
    NormalKept events (events.set itr event) := by
  intro other was there normal
  rw [List.getElem?_set]
  split
  · rename_i here
    subst other
    rw [if_pos (List.getElem?_eq_some_iff.mp there).1, same was there normal]
  · exact there

def Looked (now : Int64) (event : GameEventData) (delay : Nat) : Prop :=
  ∃ calcDelay, (nextCheck event now).value = some calcDelay ∧ delay ≤ calcDelay

variable {queue later : Queue}

theorem look_spec {event : GameEventData} (looked : (queue.look event now).value = some later) :
    later.events = queue.events ∧ later.nextEventDelay ≤ queue.nextEventDelay ∧
      Looked now event later.nextEventDelay := by
  unfold Queue.look at looked
  rw [Checked.value_bind] at looked
  obtain ⟨calcDelay, calculated, looked⟩ := bind_eq_some_iff.mp looked
  split at looked
  · rename_i sooner
    cases looked
    exact ⟨rfl, le_of_lt sooner, calcDelay, calculated, le_refl _⟩
  rename_i later'
  cases looked
  exact ⟨rfl, le_refl _, calcDelay, calculated, not_lt.mp later'⟩

variable {met : Nat → Bool}

theorem updateOne_spec {active : Finset Nat} {itr : Nat}
    (updated : (updateOne met active now queue itr).value = some later) :
    NormalKept queue.events later.events ∧ later.nextEventDelay ≤ queue.nextEventDelay ∧
      ∀ event, queue.events[itr]? = some event → event.state = .normal →
        Looked now event later.nextEventDelay := by
  unfold updateOne at updated
  dsimp only at updated
  rw [Checked.value_bind] at updated
  obtain ⟨check, _, updated⟩ := bind_eq_some_iff.mp updated
  generalize found : queue.events[itr]?.getD {} = event at updated
  have own : ∀ was, queue.events[itr]? = some was → was = event := by
    intro was there
    rw [there] at found
    exact found
  split at updated
  · split at updated
    · rename_i phase
      cases updated
      have apart : ∀ was, queue.events[itr]? = some was → was.state ≠ .normal := by
        intro was there normal
        rw [own was there, phase.1] at normal
        cases normal
      exact ⟨normalKept_set fun was there normal => absurd normal (apart was there), le_refl _,
        fun was there normal => absurd normal (apart was there)⟩
    · rw [Checked.value_bind] at updated
      obtain ⟨checked, conditions, updated⟩ := bind_eq_some_iff.mp updated
      have quiet : ∀ was, queue.events[itr]? = some was → was.state = .normal →
          checked.2 = was := by
        intro was there normal
        rw [own was there] at normal ⊢
        rw [checkConditions, if_neg (by rw [normal]; nofun)] at conditions
        cases conditions
        rfl
      obtain ⟨same, sooner, looked⟩ := look_spec updated
      refine ⟨same ▸ normalKept_set quiet, sooner, fun was there normal => ?_⟩
      rw [← quiet was there normal]
      exact looked
  · obtain ⟨same, sooner, looked⟩ := look_spec updated
    refine ⟨same ▸ fun _ _ there _ => there, sooner, fun was there _ => ?_⟩
    rw [own was there]
    exact looked

theorem foldlM_updateOne {active : Finset Nat} {itrs : List Nat}
    (updated : (itrs.foldlM (updateOne met active now) queue).value = some later) :
    NormalKept queue.events later.events ∧ later.nextEventDelay ≤ queue.nextEventDelay ∧
      ∀ itr ∈ itrs, ∀ event, queue.events[itr]? = some event → event.state = .normal →
        Looked now event later.nextEventDelay := by
  induction itrs generalizing queue with
  | nil =>
    cases updated
    exact ⟨fun _ _ there _ => there, le_refl _, nofun⟩
  | cons first itrs ih =>
    rw [List.foldlM_cons, Checked.value_bind] at updated
    obtain ⟨middle, one, rest⟩ := bind_eq_some_iff.mp updated
    obtain ⟨kept, sooner, looked⟩ := updateOne_spec one
    obtain ⟨still, soonest, others⟩ := ih rest
    refine ⟨kept.trans still, soonest.trans sooner, fun itr mem event there normal => ?_⟩
    rcases List.mem_cons.mp mem with rfl | mem
    · obtain ⟨calcDelay, calculated, bound⟩ := looked event there normal
      exact ⟨calcDelay, calculated, soonest.trans bound⟩
    · exact others itr mem event (kept itr event there normal) normal

theorem foldlM_startOne {itrs : List Nat}
    (started : (itrs.foldlM (startOne met now) queue).value = some later) :
    later.nextEventDelay ≤ queue.nextEventDelay := by
  induction itrs generalizing queue with
  | nil =>
    cases started
    exact le_refl _
  | cons first itrs ih =>
    rw [List.foldlM_cons, Checked.value_bind] at started
    obtain ⟨middle, one, rest⟩ := bind_eq_some_iff.mp started
    refine (ih rest).trans ?_
    unfold startOne at one
    rw [Checked.value_bind] at one
    obtain ⟨done, _, one⟩ := bind_eq_some_iff.mp one
    dsimp only at one
    split at one
    · cases one
      exact Nat.zero_le _
    · cases one
      exact le_refl _

theorem update_spec {mgr after : GameEventMgr} {delay : Nat}
    (updated : (mgr.update met now).value = some (delay, after)) :
    ∃ seconds, delay = (seconds + 1) * 1000 ∧ ∀ itr event, 0 < itr →
      mgr.events[itr]? = some event → event.state = .normal → Looked now event seconds := by
  unfold GameEventMgr.update at updated
  simp only [Checked.value_bind, Checked.value_pure, bind_eq_some_iff] at updated
  obtain ⟨queue, first, later, second, seconds, counted, total, multiplied, same⟩ := updated
  obtain ⟨_, bound, looked⟩ := foldlM_updateOne first
  have sooner := foldlM_startOne second
  cases same
  cases counted
  cases multiplied
  have day : later.nextEventDelay ≤ 86400 := sooner.trans bound
  have plus : (((later.nextEventDelay : Int) + 1) % 2 ^ 32).toNat = later.nextEventDelay + 1 := by
    omega
  refine ⟨later.nextEventDelay, ?_, fun itr event positive there normal => ?_⟩
  · rw [plus]
    omega
  · have short := (List.getElem?_eq_some_iff.mp there).1
    obtain ⟨calcDelay, calculated, least⟩ :=
      looked itr (List.mem_range'_1.mpr ⟨positive, by omega⟩) event there normal
    exact ⟨calcDelay, calculated, sooner.trans least⟩

/-- A change of the windows since the update is still one at the next update. -/
def Seen (event : GameEventData) (now next : Int64) : Prop :=
  ∀ t : Int, now.toInt ≤ t → t ≤ next.toInt →
    ¬ (event.Within t ↔ event.Within now.toInt) → (event.Within next.toInt ↔ event.Within t)

/-- The event ends at the next update, one second after a window began. -/
structure Clipped (event : GameEventData) (now next : Int64) : Prop where
  later : now.toInt + 1 < next.toInt
  ends : event.endTime.toInt = next.toInt
  start : event.start.toInt < next.toInt - 1
  begins : (next.toInt - 1 - event.start.toInt) % event.period = 0
  gap : event.span < event.period

theorem phase_succ {period : Int} (positive : 0 < period) (passed : Int) :
    (passed + 1) % period =
      if passed % period + 1 = period then 0 else passed % period + 1 := by
  have lower := Int.emod_nonneg passed (ne_of_gt positive)
  have upper := Int.emod_lt_of_pos passed positive
  rw [← Int.emod_add_emod]
  split
  · rename_i turn
    rw [turn, Int.emod_self]
  · exact Int.emod_eq_of_lt (by omega) (by omega)

theorem within_until {event : GameEventData} (normal : event.state = .normal)
    (regular : Regular event now) (looked : Looked now event seconds) {t : Int}
    (later : now.toInt ≤ t) (soon : t < now.toInt + seconds) :
    event.Within t ↔ event.Within now.toInt := by
  obtain ⟨calcDelay, calculated, least⟩ := looked
  have timely := timely_of_regular normal [] regular
  obtain ⟨delay, exact', _⟩ := timely.next
  have same := exact'.value.symm.trans calculated
  cases same
  rw [exact_nextCheck normal] at exact'
  by_cases ended : event.endTime.toInt < now.toInt
  · exact iff_of_false (fun within => by have ends := within.2.1; omega)
      fun within => by have ends := within.2.1; omega
  rw [if_neg ended] at exact'
  by_cases early : now.toInt < event.start.toInt
  · rw [if_pos early] at exact'
    exact iff_of_false (fun within => by have starts := within.1; omega)
      fun within => by have starts := within.1; omega
  · rw [if_neg early] at exact'
    exact within_steady (regular.inside (by omega) (by omega)) (by omega) later (by omega)

theorem looked_before_start {event : GameEventData} (normal : event.state = .normal)
    (regular : Regular event now)
    (looked : Looked now event seconds) (open' : ¬ event.endTime.toInt < now.toInt)
    (early : now.toInt < event.start.toInt) : now.toInt + seconds ≤ event.start.toInt := by
  obtain ⟨calcDelay, calculated, least⟩ := looked
  obtain ⟨delay, exact', _⟩ := (timely_of_regular normal [] regular).next
  have same := exact'.value.symm.trans calculated
  cases same
  rw [exact_nextCheck normal, if_neg open', if_pos early] at exact'
  omega

/-- A change in the last second before the update stays, unless the end clips the window. -/
theorem seen_last {event : GameEventData} {next : Int64} (inside : Inside event now)
    (begun : event.start.toInt ≤ now.toInt) (soon : now.toInt + 1 < next.toInt)
    (steady : event.Within (next.toInt - 2) ↔ event.Within now.toInt)
    (differ : ¬ (event.Within (next.toInt - 1) ↔ event.Within now.toInt))
    (whole : ¬ Clipped event now next) :
    event.Within next.toInt ↔ event.Within (next.toInt - 1) := by
  have positive := GameEventData.period_pos inside.sized.occurence
  obtain ⟨k, period⟩ : ∃ k : Int, event.period = k * 60 := ⟨event.occurence.toNat, rfl⟩
  obtain ⟨l, span⟩ : ∃ l : Int, event.span = l * 60 := ⟨event.length.toNat, rfl⟩
  have lower := Int.emod_nonneg (next.toInt - 2 - event.start.toInt) (ne_of_gt positive)
  have upper := Int.emod_lt_of_pos (next.toInt - 2 - event.start.toInt) positive
  have second := phase_succ positive (next.toInt - 2 - event.start.toInt)
  have third := phase_succ positive (next.toInt - 1 - event.start.toInt)
  rw [show next.toInt - 2 - event.start.toInt + 1 = next.toInt - 1 - event.start.toInt by omega]
    at second
  rw [show next.toInt - 1 - event.start.toInt + 1 = next.toInt - event.start.toInt by omega]
    at third
  by_contra changed
  by_cases active : event.Within now.toInt
  · have first := steady.mpr active
    have left : ¬ event.Within (next.toInt - 1) := fun within => differ (iff_of_true within active)
    have again : event.Within next.toInt := by
      by_contra off
      exact changed (iff_of_false off left)
    have out : ¬ (next.toInt - 1 - event.start.toInt) % event.period < event.span :=
      fun phase => left ⟨by omega, by have ends := again.2.1; omega, phase⟩
    have early := first.2.2
    have late := again.2.2
    split at second <;> split at third <;> omega
  · have first : ¬ event.Within (next.toInt - 2) := fun within => active (steady.mp within)
    have entered : event.Within (next.toInt - 1) := by
      by_contra off
      exact differ (iff_of_false off active)
    have left : ¬ event.Within next.toInt := fun within => changed (iff_of_true within entered)
    obtain ⟨start, ends, phase⟩ := entered
    by_cases started : event.start.toInt < next.toInt - 2
    · have out : ¬ (next.toInt - 2 - event.start.toInt) % event.period < event.span :=
        fun phase => first ⟨started, by omega, phase⟩
      have begins : (next.toInt - 1 - event.start.toInt) % event.period = 0 := by
        split at second <;> omega
      have clips : event.endTime.toInt ≤ next.toInt := by
        by_contra more
        refine left ⟨by omega, by omega, ?_⟩
        split at third <;> omega
      exact whole ⟨soon, by omega, start, begins, by omega⟩
    · exact inside.begun ⟨by omega, by omega⟩

theorem seen_iff {event : GameEventData} (normal : event.state = .normal)
    (long : event.length ≠ 0) {next : Int64} (regular : Regular event now)
    (looked : Looked now event seconds) (due : next.toInt = now.toInt + (seconds + 1)) :
    Seen event now next ↔ ¬ Clipped event now next := by
  have steady : ∀ t : Int, now.toInt ≤ t → t < now.toInt + seconds →
      (event.Within t ↔ event.Within now.toInt) :=
    fun t later soon => within_until normal regular looked later soon
  have spans : 60 ≤ event.span := by
    have positive : event.length.toNat ≠ 0 := fun zero => long (UInt32.toNat_inj.mp zero)
    unfold GameEventData.span minute
    omega
  by_cases ended : event.endTime.toInt < now.toInt
  · refine iff_of_true (fun t later _ differ => ?_) fun clipped => ?_
    · exact absurd (iff_of_false (fun within => by have ends := within.2.1; omega)
        fun within => by have ends := within.2.1; omega) differ
    · have ends := clipped.ends
      omega
  · by_cases early : now.toInt < event.start.toInt
    · have bound := looked_before_start normal regular looked ended early
      refine iff_of_true (fun t later soon differ => ?_) fun clipped => ?_
      · by_cases last : t = next.toInt
        · rw [last]
        · exact absurd (iff_of_false (fun within => by have starts := within.1; omega)
            fun within => by have starts := within.1; omega) differ
      · have start := clipped.start
        omega
    · have inside := regular.inside (by omega) (by omega)
      have positive := GameEventData.period_pos inside.sized.occurence
      have sixty : ∃ k l : Int, event.period = k * 60 ∧ event.span = l * 60 :=
        ⟨event.occurence.toNat, event.length.toNat, rfl, rfl⟩
      constructor
      · rintro seen ⟨later, ends, start, begins, gap⟩
        obtain ⟨k, l, period, span⟩ := sixty
        have begun : event.Within (next.toInt - 1) := ⟨start, by omega, by rw [begins]; omega⟩
        have idle : ¬ event.Within now.toInt := by
          intro within
          have before := ((steady (next.toInt - 2) (by omega) (by omega)).mpr within).2.2
          have turn := phase_succ positive (next.toInt - 2 - event.start.toInt)
          rw [show next.toInt - 2 - event.start.toInt + 1 = next.toInt - 1 - event.start.toInt by
            omega, begins] at turn
          have lower := Int.emod_nonneg (next.toInt - 2 - event.start.toInt) (ne_of_gt positive)
          split at turn <;> omega
        have still := (seen (next.toInt - 1) (by omega) (by omega)
          fun same => idle (same.mp begun)).mpr begun
        have bound := still.2.1
        omega
      · intro whole t later soon differ
        by_cases last : t = next.toInt
        · rw [last]
        have late : ¬ t < now.toInt + seconds := fun early => differ (steady t later early)
        obtain rfl : t = next.toInt - 1 := by omega
        have apart : now.toInt ≠ next.toInt - 1 := fun same => differ (by rw [same])
        exact seen_last inside (by omega) (by omega)
          (steady (next.toInt - 2) (by omega) (by omega)) differ whole

/-- An accepted normal event switches on time exactly when it is regular, and every change is
seen by the next update exactly when, moreover, its end does not clip a window. -/
theorem on_time_iff (row : EventRow) (accepted : row.accepted = true)
    (normal : row.worldEvent = .normal) (now : Int64) :
    (∀ events, Timely events row.load now ↔ Regular row.load now) ∧
      ∀ (met : Nat → Bool) (mgr after : GameEventMgr) (itr delay : Nat) (next : Int64),
        0 < itr → mgr.events[itr]? = some row.load →
          (mgr.update met now).value = some (delay, after) →
            next.toInt = now.toInt + (delay / 1000 : Nat) →
              (Timely mgr.events row.load now ∧ Seen row.load now next ↔
                Regular row.load now ∧ ¬ Clipped row.load now next) := by
  have long : row.load.length ≠ 0 := by
    intro zero
    exact (of_decide_eq_true accepted).2 ⟨zero, normal⟩
  refine ⟨fun events => timely_iff_regular normal long events now, ?_⟩
  intro met mgr after itr delay next positive there updated due
  obtain ⟨seconds, rfl, looked⟩ := update_spec updated
  rw [Nat.mul_div_cancel _ (by decide)] at due
  rw [timely_iff_regular normal long]
  exact and_congr_right fun regular => seen_iff normal long regular
    (looked itr row.load positive there normal) due

/-- An hour of every day from the second 1000 on. -/
def daily : EventRow := ⟨1, 1000, 10000000, 1440, 60, .normal⟩

theorem on_time_iff_daily :
    (∀ events, Timely events daily.load 2000 ↔ Regular daily.load 2000) ∧
      ∀ (met : Nat → Bool) (mgr after : GameEventMgr) (itr delay : Nat) (next : Int64),
        0 < itr → mgr.events[itr]? = some daily.load →
          (mgr.update met 2000).value = some (delay, after) →
            next.toInt = (2000 : Int64).toInt + (delay / 1000 : Nat) →
              (Timely mgr.events daily.load 2000 ∧ Seen daily.load 2000 next ↔
                Regular daily.load 2000 ∧ ¬ Clipped daily.load 2000 next) :=
  on_time_iff daily (by decide) rfl 2000

/-- At the second of its start the event is inactive, but the next check waits for its end. -/
theorem on_time_fails :
    ¬ ∀ row : EventRow, row.accepted = true → row.worldEvent = .normal → ∀ now : Int64,
      (∀ events, Timely events row.load now) ∧
        ∀ (met : Nat → Bool) (mgr after : GameEventMgr) (itr delay : Nat) (next : Int64),
          0 < itr → mgr.events[itr]? = some row.load →
            (mgr.update met now).value = some (delay, after) →
              next.toInt = now.toInt + (delay / 1000 : Nat) → Seen row.load now next := by
  intro claim
  have timely := (claim daily (by decide) rfl 1000).1 []
  have regular : Regular daily.load 1000 := regular_of_timely rfl (by decide) timely
  exact (regular.inside (by decide) (by decide)).begun (by decide)

end OpenWoW.GameEvents
