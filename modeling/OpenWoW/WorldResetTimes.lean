import OpenWoW.WorldResets

/-! When a reset is due, and what one update makes of it. -/
namespace OpenWoW.WorldResets

/-- A moment at which the local clock shows the full hour. -/
def Occurrence (offset : Int) (hour : Nat) (time : Int) : Prop :=
  (time + offset) % day = hour * 3600

variable {offset : Int} {hour : Nat}

variable {time : Int}

theorem Occurrence.add_day (occurs : Occurrence offset hour time) :
    Occurrence offset hour (time + day) := by
  unfold Occurrence day at *
  omega

theorem Occurrence.sub_day (occurs : Occurrence offset hour time) :
    Occurrence offset hour (time - day) := by
  unfold Occurrence day at *
  omega

theorem Occurrence.add_day_le {first second : Int} (occurs : Occurrence offset hour first)
    (also : Occurrence offset hour second) (before : first < second) : first + day ≤ second := by
  unfold Occurrence day at *
  omega

theorem dayResetTime_occurrence (offset : Int) {hour : Nat} (isHour : hour < 24) (curTime : Int) :
    Occurrence offset hour (dayResetTime offset hour curTime) := by
  unfold Occurrence dayResetTime day
  omega

theorem dayResetTime_near (offset : Int) {hour : Nat} (isHour : hour < 24) (curTime : Int) :
    curTime - day < dayResetTime offset hour curTime ∧
      dayResetTime offset hour curTime < curTime + day := by
  unfold dayResetTime day
  omega

theorem lastResetTime_spec (offset : Int) {hour : Nat} (isHour : hour < 24) (curTime : Int) :
    Occurrence offset hour (lastResetTime offset hour curTime) ∧
      lastResetTime offset hour curTime ≤ curTime ∧
      curTime < lastResetTime offset hour curTime + day := by
  have near := dayResetTime_near offset isHour curTime
  have occurs := dayResetTime_occurrence offset isHour curTime
  unfold lastResetTime
  dsimp only
  split
  · exact ⟨occurs.sub_day, by omega, by omega⟩
  · exact ⟨occurs, by omega, by unfold day at *; omega⟩

theorem nextResetTime_eq (offset : Int) (hour : Nat) (curTime : Int) :
    (if dayResetTime offset hour curTime ≤ curTime then dayResetTime offset hour curTime + day
      else dayResetTime offset hour curTime) = lastResetTime offset hour curTime + day := by
  unfold lastResetTime
  by_cases past : dayResetTime offset hour curTime ≤ curTime
  · rw [if_pos past, if_neg (Int.not_lt.mpr past)]
  · rw [if_neg past, if_pos (Int.not_le.mp past), Int.sub_add_cancel]

/-- The next time of a reset, against what is recorded and the resets so far. -/
structure Due (offset : Int) (hour : Nat) (next : Int) (records past : List Int) (now : Int) :
    Prop where
  occurs : Occurrence offset hour next
  recent : (∀ r ∈ records, next - day ≤ r) ∨ next ≤ now
  past : ∀ u ∈ past, u ≤ next
  near : next - day ≤ now

/-- The update does not come more than a day late, and one in the very second of a reset finds
nothing from before the day that ends. -/
def Punctual (next time : Int) (records : List Int) : Prop :=
  (next < time → time ≤ next + day) ∧ (time = next → ∀ r ∈ records, next - day ≤ r)

variable {past : List Int}

theorem Due.reset {next now : Int} {records : List Int}
    (due : Due offset hour next records past now) (overdue : next < time)
    (punctual : Punctual next time records) {new : List Int} (later : ∀ r ∈ new, time ≤ r)
    {after : Int} (onward : time ≤ after) :
    Due offset hour (next + day) new (past ++ [time]) after := by
  refine ⟨due.occurs.add_day, .inl fun r there => ?_, fun u there => ?_, ?_⟩
  · have := later r there
    omega
  · rcases List.mem_append.mp there with before | this
    · have := due.past u before
      unfold day
      omega
    · rw [List.mem_singleton.mp this]
      exact punctual.1 overdue
  · omega

theorem Due.wait {next now : Int} {records : List Int} (due : Due offset hour next records past now)
    (early : ¬next < time) (forward : now ≤ time) (punctual : Punctual next time records)
    {new : List Int} (later : ∀ r ∈ new, time ≤ r) {after : Int} (onward : time ≤ after) :
    Due offset hour next (records ++ new) past after ∧
      ∀ o, Occurrence offset hour o → o < time → ∀ r ∈ records ++ new, o ≤ r := by
  have old : ∀ r ∈ records, next - day ≤ r := by
    rcases due.recent with recent | reached
    · exact recent
    · exact punctual.2 (by omega)
  have near := due.near
  have all : ∀ r ∈ records ++ new, next - day ≤ r := by
    intro r there
    rcases List.mem_append.mp there with before | recorded
    · exact old r before
    · have := later r recorded
      omega
  refine ⟨⟨due.occurs, .inl all, due.past, by omega⟩, fun o occurs before r there => ?_⟩
  have apart := occurs.add_day_le due.occurs (by omega)
  have := all r there
  omega

/-- What the world state says while no server runs. -/
structure Saved (offset : Int) (hour : Nat) (s : Schedule) (past : List Int) (now : Int) :
    Prop where
  fresh : s.stored = 0 → past = [] ∧ s.records = []
  occurs : s.stored ≠ 0 → Occurrence offset hour s.stored
  near : s.stored ≠ 0 → s.stored - day ≤ now
  past : ∀ u ∈ past, u ≤ s.stored
  records : ∀ r ∈ s.records, s.stored - day ≤ r

theorem uint32_eq {value : Int} (positive : 0 ≤ value) (small : value < 2 ^ 32) :
    uint32 value = value :=
  Int.emod_eq_of_lt positive small

/-- A start that does not come in the very second of the reset that is stored. -/
def Clear (s : Schedule) (time : Int) : Prop := s.stored = time → ∀ r ∈ s.records, time ≤ r

/-- A schedule while the server runs. -/
structure Scheduled (offset : Int) (hour : Nat) (s : Schedule) (past : List Int) (now : Int) :
    Prop where
  saved : Saved offset hour s past now
  due : Due offset hour s.next s.records past now
  isStored : s.stored ≠ 0
  positive : 0 < s.next

theorem Saved.init {s : Schedule} {now : Int}
    (saved : Saved offset hour s past now) (isHour : hour < 24) (forward : now ≤ time)
    (late : day < time) (soon : time + day < 2 ^ 32) (clear : Clear s time) :
    Scheduled offset hour (s.init offset hour time) past time := by
  obtain ⟨occurs, before, after⟩ := lastResetTime_spec offset isHour time
  have next : (s.init offset hour time).next =
      if s.stored < time then lastResetTime offset hour time
      else lastResetTime offset hour time + day := by
    unfold Schedule.init
    dsimp only
    rw [nextResetTime_eq, Int.add_sub_cancel]
  have stored : (s.init offset hour time).stored =
      if s.stored = 0 then uint32 (s.init offset hour time).next else s.stored := rfl
  have records : (s.init offset hour time).records = s.records := rfl
  generalize s.init offset hour time = result at next stored records
  have positive : 0 < result.next := by
    rw [next]
    split <;> omega
  by_cases none : s.stored = 0
  · obtain ⟨rfl, empty⟩ := saved.fresh none
    have isNext : result.next = lastResetTime offset hour time := by
      rw [next, if_pos (by unfold day at late; omega)]
    have isStored : result.stored = lastResetTime offset hour time := by
      rw [stored, if_pos none, isNext]
      exact uint32_eq (by omega) (by unfold day at soon; omega)
    have some : result.stored ≠ 0 := by omega
    have near : lastResetTime offset hour time - day ≤ time := by
      omega
    refine ⟨⟨fun zero => absurd zero some, fun _ => isStored ▸ occurs, fun _ => isStored ▸ near,
      nofun, ?_⟩, isNext ▸ ⟨occurs, .inr before, nofun, near⟩, some, positive⟩
    rw [records, empty]
    exact nofun
  · have isStored : result.stored = s.stored := by rw [stored, if_neg none]
    have aligned := saved.occurs none
    have near := saved.near none
    have some : result.stored ≠ 0 := isStored ▸ none
    refine ⟨⟨fun zero => absurd zero some, fun _ => isStored ▸ aligned, fun _ => ?_,
      isStored ▸ saved.past, ?_⟩, ?_, some, positive⟩
    · rw [isStored]
      omega
    · rw [records, isStored]
      exact saved.records
    · rw [records]
      by_cases pending : s.stored < time
      · -- the stored reset is overdue
        rw [next, if_pos pending]
        have reached : s.stored ≤ lastResetTime offset hour time := by
          by_contra beyond
          have := occurs.add_day_le aligned (by omega)
          omega
        exact ⟨occurs, .inr before, fun u there => Int.le_trans (saved.past u there) reached,
          by unfold day; omega⟩
      · rw [next, if_neg pending]
        have within : s.stored ≤ lastResetTime offset hour time + day := by
          by_contra beyond
          have := occurs.add_day.add_day_le aligned (by omega)
          omega
        refine ⟨occurs.add_day, .inl fun r there => ?_, fun u there =>
          Int.le_trans (saved.past u there) within, by omega⟩
        have recorded := saved.records r there
        by_cases same : s.stored = time
        · have := clear same r there
          omega
        · have := occurs.add_day_le aligned (by omega)
          omega

theorem Scheduled.update {s : Schedule} {now after : Int}
    (scheduled : Scheduled offset hour s past now) (forward : now ≤ time)
    (soon : time + day < 2 ^ 32) (punctual : Punctual s.next time s.records) {new : List Int}
    (later : ∀ r ∈ new, time ≤ r) (onward : time ≤ after) :
    Scheduled offset hour (s.update time new) (past ++ if s.next < time then [time] else [])
        after ∧
      ∀ o, Occurrence offset hour o → o < time → ∀ r ∈ (s.update time new).records, o ≤ r := by
  obtain ⟨saved, due, some, positive⟩ := scheduled
  by_cases overdue : s.next < time
  · have again := due.reset overdue punctual later onward
    have isStored : uint32 (s.next + day) = s.next + day :=
      uint32_eq (by unfold day; omega) (by omega)
    have result : s.update time new =
        { stored := s.next + day, next := s.next + day, records := new } := by
      unfold Schedule.update Schedule.reset
      rw [if_pos overdue, isStored]
      rfl
    have positive : 0 < s.next + day := by
      unfold day
      omega
    rw [if_pos overdue, result]
    refine ⟨⟨⟨fun zero => ?_, fun _ => again.occurs, fun _ => again.near, again.past,
      fun r there => ?_⟩, again, Int.ne_of_gt positive, positive⟩, fun o _ before r there => ?_⟩
    · exact absurd zero (Int.ne_of_gt positive)
    · have := later r there
      dsimp only
      omega
    · have := later r there
      omega
  · obtain ⟨again, cleared⟩ := due.wait overdue forward punctual later onward
    have result : s.update time new = { s with records := s.records ++ new } := by
      unfold Schedule.update
      rw [if_neg overdue]
    have near := saved.near some
    rw [if_neg overdue, List.append_nil, result]
    refine ⟨⟨⟨fun zero => absurd zero some, saved.occurs, fun _ => ?_, saved.past,
      fun r there => ?_⟩, again, some, positive⟩, cleared⟩
    · dsimp only
      omega
    · rcases List.mem_append.mp there with old | recorded
      · exact saved.records r old
      · have := later r recorded
        dsimp only
        omega

end OpenWoW.WorldResets
